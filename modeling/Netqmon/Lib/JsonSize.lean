import Mathlib
import Netqmon.Lib.RustStr

/-! # The size of JSON texts

The number of bytes of a value in compact JSON: strings escape quotes, backslashes and the control
characters below 32, numbers are decimal, and there are no blanks. -/

namespace Netqmon.Lib.JsonSize

/-! ### Scalars -/

def charLen (c : Char) : ℕ :=
  if c = '"' ∨ c = '\\' then 2
  else if c.toNat ∈ [8, 9, 10, 12, 13] then 2
  else if c.toNat < 32 then 6
  else c.utf8Size

def stringLen (s : String) : ℕ := 2 + (s.toList.map charLen).sum

def natLen (n : ℕ) : ℕ := (Nat.toDigits 10 n).length

def intLen (z : ℤ) : ℕ := (if z < 0 then 1 else 0) + natLen z.natAbs

def boolLen (b : Bool) : ℕ := if b then 4 else 5

/-- A value that may be missing. -/
def optionLen {α : Type} (f : α → ℕ) (value : Option α) : ℕ := value.elim 4 f

/-! ### Arrays and objects -/

def arrayLen {α : Type} (f : α → ℕ) (l : List α) : ℕ := 2 + (l.map f).sum + (l.length - 1)

def objectLen (fields : List (String × ℕ)) : ℕ :=
  2 + (fields.map fun field => stringLen field.1 + 1 + field.2).sum + (fields.length - 1)

end Netqmon.Lib.JsonSize
