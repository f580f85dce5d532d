/-!
# `SidecarInjection.Decimal.Natural`: natural numbers as decimal digits

* `read_render`: a rendered number reads back as itself.
* `render_ne_nil`: a rendered number has a digit.
-/

set_option autoImplicit false

namespace SidecarInjection.Decimal

/-- The character of a digit below ten. -/
def digitChar (d : Nat) : Char := Char.ofNat (48 + d)

/-- Whether a character is one of the ten ASCII digits. -/
def isDigit (c : Char) : Bool := 48 ≤ c.toNat && c.toNat ≤ 57

/-- The number a digit stands for. -/
def digitValue (c : Char) : Nat := c.toNat - 48

/-- The digits of a number, the most significant first, without leading zeros. -/
def render (n : Nat) : List Char :=
  if n < 10 then [digitChar n] else render (n / 10) ++ [digitChar (n % 10)]

/-- The number that digits stand for, after the value of the digits before. -/
def readFrom (acc : Nat) : List Char → Option Nat
  | [] => some acc
  | c :: rest => if isDigit c then readFrom (acc * 10 + digitValue c) rest else none

/-- The number written by one or more digits. Leading zeros are allowed. -/
def read (cs : List Char) : Option Nat :=
  if cs.isEmpty then none else readFrom 0 cs

/-- The decimal text of a number. -/
def text (n : Nat) : String := String.ofList (render n)

/-- The decimal text of an integer, with a minus sign below zero. -/
def intText : Int → String
  | .ofNat n => text n
  | .negSucc n => "-" ++ text (n + 1)

/-- The character of a digit is a digit and stands for that digit. Only true below ten: the
characters behind `9` are no digits. -/
theorem digitChar_facts (d : Nat) (h : d < 10) :
    isDigit (digitChar d) = true ∧ digitValue (digitChar d) = d := by
  have : d = 0 ∨ d = 1 ∨ d = 2 ∨ d = 3 ∨ d = 4 ∨ d = 5 ∨ d = 6 ∨ d = 7 ∨ d = 8 ∨ d = 9 := by omega
  rcases this with h | h | h | h | h | h | h | h | h | h <;> subst h <;> decide

/-- Digits are read from left to right, so what was read first is where the rest goes on. -/
theorem readFrom_append (acc : Nat) (xs ys : List Char) :
    readFrom acc (xs ++ ys) = (readFrom acc xs).bind fun n => readFrom n ys := by
  induction xs generalizing acc with
  | nil => rfl
  | cons c rest ih =>
    simp only [List.cons_append, readFrom]
    split
    · exact ih _
    · rfl

/-- A rendered number has a digit, also zero. So the empty text is the numeral of no number. -/
theorem render_ne_nil (n : Nat) : render n ≠ [] := by
  rw [render]
  split <;> simp

/-- A rendered number reads back as itself. The induction follows the quotients by ten. -/
theorem readFrom_render (n : Nat) : readFrom 0 (render n) = some n := by
  -- The last digit is written after all the others, so the induction is on the quotient.
  induction n using Nat.strongRecOn with
  | _ n ih =>
    rw [render]
    split
    · rename_i h
      simp [readFrom, digitChar_facts n h]
    · rename_i h
      have hd := digitChar_facts (n % 10) (Nat.mod_lt _ (by decide))
      rw [readFrom_append, ih (n / 10) (Nat.div_lt_self (by omega) (by decide))]
      simp only [Option.bind_some, readFrom, hd, if_true]
      congr 1
      omega

/-- The same for the reader that refuses the empty text. -/
theorem read_render (n : Nat) : read (render n) = some n := by
  simp [read, render_ne_nil, readFrom_render]

end SidecarInjection.Decimal
