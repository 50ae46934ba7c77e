namespace NodeVariables.Text

def hexDigit? (c : Char) : Option Nat :=
  if '0' ≤ c ∧ c ≤ '9' then some (c.toNat - '0'.toNat)
  else if 'a' ≤ c ∧ c ≤ 'f' then some (c.toNat - 'a'.toNat + 10)
  else if 'A' ≤ c ∧ c ≤ 'F' then some (c.toNat - 'A'.toNat + 10)
  else none

/-- A number below sixteen as an upper-case digit. -/
def hexDigit (n : Nat) : Char :=
  if n < 10 then Char.ofNat ('0'.toNat + n) else Char.ofNat ('A'.toNat + (n - 10))

def room (width : Nat) (s : String) : Nat := width - s.length

def blanks (n : Nat) : String := "".pushn ' ' n

theorem toList_blanks (n : Nat) : (blanks n).toList = List.replicate n ' ' := by
  induction n with
  | zero => rfl
  | succ n ih =>
    have hpush : blanks (n + 1) = (blanks n).push ' ' := rfl
    rw [hpush, String.toList_push, ih, List.replicate_succ']

def padRight (width : Nat) (s : String) : String := s ++ blanks (room width s)

def padLeft (width : Nat) (s : String) : String := blanks (room width s) ++ s

/-- The text in the middle of its column; an odd blank goes to the right. -/
def center (width : Nat) (s : String) : String :=
  let left := room width s / 2
  blanks left ++ s ++ blanks (room width s - left)

def first (n : Nat) (s : String) : String := String.ofList (s.toList.take n)

end NodeVariables.Text
