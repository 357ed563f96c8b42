/-!
TOML dates and times.

A date is `YYYY-MM-DD`, a time `hh:mm:ss` with an optional fraction of seconds; a date and a time
are joined by `T`, `t` or a blank, and `Z`, `z` or a distance from universal time may follow them.
Days have to exist in their month, and a minute may have a leap second.
-/
namespace Uncaught.Toml

/-- The number that two digits write, if both are digits. -/
def twoDigits? (a b : Char) : Option Nat :=
  if a.isDigit && b.isDigit then some ((a.toNat - '0'.toNat) * 10 + (b.toNat - '0'.toNat)) else none

def daysIn (year month : Nat) : Nat :=
  if month = 2 then
    if year % 4 = 0 && (year % 100 ≠ 0 || year % 400 = 0) then 29 else 28
  else if month = 4 || month = 6 || month = 9 || month = 11 then 30
  else 31

/-- The text after a date, if a text starts with one. -/
def afterDate? : List Char → Option (List Char)
  | y1 :: y2 :: y3 :: y4 :: '-' :: m1 :: m2 :: '-' :: d1 :: d2 :: rest => do
    let year := (← twoDigits? y1 y2) * 100 + (← twoDigits? y3 y4)
    let month ← twoDigits? m1 m2
    let day ← twoDigits? d1 d2
    if 1 ≤ month && month ≤ 12 && 1 ≤ day && day ≤ daysIn year month then some rest else none
  | _ => none

/-- The text after an hour and a minute, if a text starts with them. -/
def afterMinute? : List Char → Option (List Char)
  | h1 :: h2 :: ':' :: m1 :: m2 :: rest => do
    if (← twoDigits? h1 h2) ≤ 23 && (← twoDigits? m1 m2) ≤ 59 then some rest else none
  | _ => none

/-- The text after a time, if a text starts with one. -/
def afterTime? (cs : List Char) : Option (List Char) := do
  match ← afterMinute? cs with
  | ':' :: s1 :: s2 :: rest =>
    if 60 < (← twoDigits? s1 s2) then none
    else
      match rest with
      | '.' :: fraction =>
        if (fraction.head?.any Char.isDigit) then some (fraction.dropWhile Char.isDigit) else none
      | _ => some rest
  | _ => none

/-- Whether a text is a distance from universal time, or nothing. -/
def isOffset : List Char → Bool
  | [] => true
  | ['Z'] => true
  | ['z'] => true
  | '+' :: cs => afterMinute? cs = some []
  | '-' :: cs => afterMinute? cs = some []
  | _ => false

/-- Whether a text is a date, a time, or both. -/
def isDatetime (cs : List Char) : Bool :=
  match afterDate? cs with
  | none => afterTime? cs = some []
  | some [] => true
  | some (mark :: cs) =>
    (mark = 'T' || mark = 't' || mark = ' ') && (afterTime? cs).any isOffset

end Uncaught.Toml
