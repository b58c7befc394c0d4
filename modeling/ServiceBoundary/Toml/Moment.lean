/-!
# Dates and times

Which words are dates or times: `1979-05-27`, `07:32`, `07:32:00.5`, and a date and a time with `T`
or one blank between them, with or without an offset from universal time at the end.
-/

namespace ServiceBoundary.Toml.Moment

/-- a number of exactly `n` digits, and what follows them -/
def number? (n : Nat) (cs : List Char) : Option (Nat × List Char) :=
  let ds := cs.takeWhile Char.isDigit
  if ds.length = n then some (Nat.ofDigitChars 10 ds 0, cs.drop n) else none

/-- a number of two digits up to some bound, and what follows it -/
def pair? (bound : Nat) (cs : List Char) : Option (Nat × List Char) :=
  (number? 2 cs).filter fun r => r.1 ≤ bound

/-- what follows this character -/
def after? (c : Char) (cs : List Char) : Option (List Char) :=
  if cs.head? = some c then some (cs.drop 1) else none

/-- the number of days of a month -/
def days (year month : Nat) : Nat :=
  if month = 2 then if year % 4 = 0 ∧ (year % 100 ≠ 0 ∨ year % 400 = 0) then 29 else 28
  else if month = 4 ∨ month = 6 ∨ month = 9 ∨ month = 11 then 30
  else 31

def date? (cs : List Char) : Option (List Char) := do
  let (year, cs) ← number? 4 cs
  let (month, cs) ← pair? 12 (← after? '-' cs)
  let (day, cs) ← pair? (days year month) (← after? '-' cs)
  if month = 0 ∨ day = 0 then none else some cs

/-- what follows a time; seconds and their fraction may be left out -/
def time? (cs : List Char) : Option (List Char) := do
  let (_, cs) ← pair? 23 cs
  let (_, cs) ← pair? 59 (← after? ':' cs)
  match after? ':' cs with
  | none => some cs
  | some cs =>
    let (_, cs) ← pair? 60 cs
    match after? '.' cs with
    | none => some cs
    | some cs => if (cs.head?.map Char.isDigit).getD false then some (cs.dropWhile Char.isDigit) else none

/-- whether this is an offset from universal time, or nothing -/
def isOffset : List Char → Bool
  | [] | ['Z'] | ['z'] => true
  | c :: cs =>
    (c = '+' || c = '-') && (do
      let (_, cs) ← pair? 23 cs
      let (_, cs) ← pair? 59 (← after? ':' cs)
      return cs) = some []

def isMoment (cs : List Char) : Bool :=
  match date? cs with
  | some [] => true
  | some (c :: rest) => ['T', 't', ' '].contains c && ((time? rest).map isOffset).getD false
  | none => time? cs = some []

end ServiceBoundary.Toml.Moment
