import Mathlib

/-! # Strings as Rust counts and compares them

`str::len` is the number of UTF-8 bytes, `char::is_control` the Unicode category Cc,
`char::is_whitespace` the property White_Space, and the ASCII case mappings leave every other
character alone. -/

namespace Netqmon.Lib.RustStr

variable (s : String)

def byteLen : ℕ := (s.toList.map Char.utf8Size).sum

variable (c : Char)

def isControl : Bool := c.toNat < 32 || (127 ≤ c.toNat && c.toNat < 160)

def hasControl : Bool := s.toList.any isControl

def isWhitespace : Bool :=
  (9 ≤ c.toNat && c.toNat ≤ 13) || c.toNat ∈ [32, 133, 160, 5760, 8232, 8233, 8239, 8287, 12288]
    || (8192 ≤ c.toNat && c.toNat ≤ 8202)

def trimChars (cs : List Char) : List Char :=
  (cs.dropWhile isWhitespace).rdropWhile isWhitespace

def trim : String := String.ofList (trimChars s.toList)

def toAsciiLowercase : String := String.ofList (s.toList.map Char.toLower)

def toAsciiUppercase : String := String.ofList (s.toList.map Char.toUpper)

def eqIgnoreAsciiCase (a b : String) : Bool := toAsciiLowercase a == toAsciiLowercase b

def isAsciiDigit : Bool := '0' ≤ c && c ≤ '9'

def isAsciiHexdigit : Bool :=
  isAsciiDigit c || ('a' ≤ c && c ≤ 'f') || ('A' ≤ c && c ≤ 'F')

/-- The parts before and behind the first occurrence of a separator. -/
def splitOnce (separator s : String) : Option (String × String) :=
  go separator.toList [] s.toList
where
  go (separator before : List Char) : List Char → Option (String × String)
    | [] => none
    | c :: rest =>
      if separator.isPrefixOf (c :: rest) then
        some (String.ofList before.reverse, String.ofList ((c :: rest).drop separator.length))
      else go separator (c :: before) rest

/-- What `parse` makes of a decimal number below a bound. -/
def parseUnsigned (bound : ℕ) (s : String) : Option ℕ :=
  let digits := match s.toList with
    | '+' :: rest => rest
    | cs => cs
  let number := digits.foldl (fun n c => n * 10 + (c.toNat - '0'.toNat)) 0
  if !digits.isEmpty && digits.all isAsciiDigit && number < bound then some number else none

/-! ### Characters of a range -/

/-- A property of the characters of a range is checked code by code. -/
theorem forall_char_range {P : Char → Prop} {c low high : Char} (hlow : low ≤ c) (hhi : c ≤ high)
    (hall : ∀ n ≤ high.toNat, low.toNat ≤ n → P (Char.ofNat n)) : P c := by
  have h := hall c.toNat (Char.le_def.1 hhi) (Char.le_def.1 hlow)
  rwa [Char.ofNat_toNat] at h

/-- Hexadecimal digits are digits or letters up to F in capitals. -/
theorem hexdigit_toUpper {c : Char} (h : isAsciiHexdigit c = true) :
    (isAsciiDigit c.toUpper || ('A' ≤ c.toUpper && c.toUpper ≤ 'F')) = true := by
  simp only [isAsciiHexdigit, isAsciiDigit, Bool.or_eq_true, Bool.and_eq_true,
    decide_eq_true_eq] at h
  let isHex (c : Char) : Prop :=
    (isAsciiDigit c.toUpper || ('A' ≤ c.toUpper && c.toUpper ≤ 'F')) = true
  suffices isHex c from this
  rcases h with (⟨hlow, hhi⟩ | ⟨hlow, hhi⟩) | ⟨hlow, hhi⟩ <;>
    exact forall_char_range hlow hhi (by decide)

variable {cs : List Char}

/-! ### Lengths and control characters of parts of a string -/

@[simp] theorem byteLen_ofList : byteLen (String.ofList cs) = (cs.map Char.utf8Size).sum := by
  simp [byteLen]

@[simp] theorem hasControl_ofList : hasControl (String.ofList cs) = cs.any isControl := by
  simp [hasControl]

variable (a b : String)

@[simp] theorem byteLen_append : byteLen (a ++ b) = byteLen a + byteLen b := by
  simp [byteLen]

@[simp] theorem hasControl_append : hasControl (a ++ b) = (hasControl a || hasControl b) := by
  simp [hasControl]

theorem sublist_trimChars : (trimChars cs).Sublist cs :=
  ((List.rdropWhile_prefix _ _).sublist).trans (List.dropWhile_suffix _).sublist

theorem byteLen_trim_le : byteLen (trim s) ≤ byteLen s := by
  rw [trim, byteLen_ofList]
  exact List.Sublist.sum_le_sum ((sublist_trimChars).map _) (by simp)

theorem hasControl_trim {s : String} (h : hasControl s = false) : hasControl (trim s) = false := by
  rw [trim, hasControl_ofList, List.any_eq_false]
  intro c hc
  exact List.any_eq_false.1 h c ((sublist_trimChars).subset hc)

end Netqmon.Lib.RustStr
