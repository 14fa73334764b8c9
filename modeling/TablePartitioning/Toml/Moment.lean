import TablePartitioning.Text.Numeral

/-!
# Dates and times in TOML

A date, a time of the day, or both, where both may come with the difference from universal time.
They are taken as texts: a letter stands between date and time, seconds have at most nine places,
and zeros at the end of the places are left out, up to the first place.
-/

namespace TablePartitioning.Toml

/-- A number of a fixed count of digits, within bounds, and what follows it. -/
def fixed? (width low high : Nat) (chars : List Char) : Option (Nat × List Char) :=
  let digits := chars.take width
  if digits.length = width && digits.all Char.isDigit then
    let value := Nat.ofDigitChars 10 digits 0
    if low ≤ value && value ≤ high then some (value, chars.drop width) else none
  else none

/-- What follows a mark. -/
def after? (mark : Char) : List Char → Option (List Char)
  | c :: rest => if c = mark then some rest else none
  | [] => none

/-- The number of days of a month. -/
def daysOfMonth (year month : Nat) : Nat :=
  if month = 2 then
    if year % 4 = 0 && (year % 100 ≠ 0 || year % 400 = 0) then 29 else 28
  else if month = 4 || month = 6 || month = 9 || month = 11 then 30
  else 31

/-- A date and what follows it. -/
def date? (chars : List Char) : Option (String × List Char) := do
  let (year, rest) ← fixed? 4 0 9999 chars
  let (month, rest) ← fixed? 2 1 12 (← after? '-' rest)
  let (day, rest) ← fixed? 2 1 (daysOfMonth year month) (← after? '-' rest)
  let text := Text.Numeral.padded 4 year ++ "-" ++ Text.Numeral.padded 2 month ++ "-" ++
    Text.Numeral.padded 2 day
  return (text, rest)

/-- Places of a second: at most nine, without the zeros at their end, but at least one. -/
def places (digits : List Char) : String :=
  match ((digits.take 9).reverse.dropWhile (· = '0')).reverse with
  | [] => ".0"
  | kept => "." ++ String.ofList kept

/-- A time of the day and what follows it; the seconds may be left out. -/
def time? (chars : List Char) : Option (String × List Char) := do
  let (hour, rest) ← fixed? 2 0 23 chars
  let (minute, rest) ← fixed? 2 0 59 (← after? ':' rest)
  let start := Text.Numeral.padded 2 hour ++ ":" ++ Text.Numeral.padded 2 minute
  match after? ':' rest with
  | none => return (start, rest)
  | some rest =>
      let (second, rest) ← fixed? 2 0 60 rest
      let start := start ++ ":" ++ Text.Numeral.padded 2 second
      match after? '.' rest with
      | none => return (start, rest)
      | some rest =>
          let digits := rest.takeWhile Char.isDigit
          if digits.isEmpty then none
          else return (start ++ places digits, rest.dropWhile Char.isDigit)

/-- The difference from universal time, if there is one, at the end of a text. -/
def offset? : List Char → Option String
  | [] => some ""
  | mark :: rest =>
      if mark = 'Z' || mark = 'z' then if rest.isEmpty then some "Z" else none
      else if mark = '+' || mark = '-' then do
        let (hours, rest) ← fixed? 2 0 23 rest
        let (minutes, rest) ← fixed? 2 0 59 (← after? ':' rest)
        if rest.isEmpty then
          return String.singleton mark ++ Text.Numeral.padded 2 hours ++ ":" ++
            Text.Numeral.padded 2 minutes
        else none
      else none

/-- A date, a time, or both, as a text of its own form. -/
def moment? (chars : List Char) : Option String :=
  match date? chars with
  | some (date, []) => some date
  | some (date, mark :: rest) =>
      if mark = 'T' || mark = 't' || mark = ' ' then do
        let (time, rest) ← time? rest
        return date ++ "T" ++ time ++ (← offset? rest)
      else none
  | none =>
      match time? chars with
      | some (time, []) => some time
      | _ => none

end TablePartitioning.Toml
