import Rover.Yaml.Scalar

/-!
# Dates

A date, possibly with a time of the day and a time zone, as it is written after it was checked.
-/

namespace Rover.Yaml

def daysOf (year month : Nat) : Nat :=
  let isLeap := year % 4 == 0 && (year % 100 != 0 || year % 400 == 0)
  if month == 2 then (if isLeap then 29 else 28)
  else if [4, 6, 9, 11].contains month then 30
  else 31

def padded (width n : Nat) : String :=
  let digits := Nat.toDigits 10 n
  String.ofList (List.replicate (width - digits.length) '0' ++ digits)

def number (most : Nat) (cs : Chars) : Nat × Chars :=
  let digits := (cs.take most).takeWhile Char.isDigit
  (Number.digitsValue 10 digits, cs.drop digits.length)

def checkDay (year month day : Nat) : Result Unit := do
  if year = 0 then throw (.unfit "year 0 is out of range")
  unless 1 ≤ month && month ≤ 12 do throw (.unfit "month must be in 1..12")
  unless 1 ≤ day && day ≤ daysOf year month do throw (.unfit "day is out of range for month")

def checkTime (hour minute second : Nat) : Result Unit := do
  unless hour ≤ 23 do throw (.unfit "hour must be in 0..23")
  unless minute ≤ 59 do throw (.unfit "minute must be in 0..59")
  unless second ≤ 59 do throw (.unfit "second must be in 0..59")

def dayMinutes : Nat := 1440

def farZone (minutes : Int) : Fault :=
  let days := minutes.fdiv dayMinutes
  let seconds := 60 * minutes.fmod dayMinutes
  .unfit ("offset must be a timedelta strictly between -timedelta(hours=24) and "
    ++ "timedelta(hours=24), not datetime.timedelta(days=" ++ Number.intText days
    ++ (if seconds = 0 then "" else ", seconds=" ++ Number.intText seconds) ++ ").")

def zoneText (cs : Chars) : Result String := do
  match cs.dropWhile isBlank with
  | ['Z'] => return "+00:00"
  | sign :: rest =>
    let (hours, rest) := number 2 rest
    let (minutes, _) := number 2 (rest.drop 1)
    let total := 60 * hours + minutes
    if dayMinutes ≤ total then throw (farZone (if sign == '-' then -(total : Int) else total))
    return String.ofList [if total = 0 then '+' else sign] ++ padded 2 (total / 60) ++ ":"
      ++ padded 2 (total % 60)
  | [] => return ""

def fractionText (cs : Chars) : String :=
  let digits := cs.take 6
  if digits.all (· == '0') then ""
  else "." ++ String.ofList (digits ++ List.replicate (6 - digits.length) '0')

def dateOf (s : String) : Result String := do
  unless isDate s || isShortDate s do throw (.noAttribute "NoneType" "groupdict")
  let (year, rest) := number 4 s.toList
  let (month, rest) := number 2 (rest.drop 1)
  let (day, rest) := number 2 (rest.drop 1)
  let date := padded 4 year ++ "-" ++ padded 2 month ++ "-" ++ padded 2 day
  if rest.isEmpty then
    checkDay year month day
    return date
  let (hour, rest) := number 2 (rest.dropWhile (!Char.isDigit ·))
  let (minute, rest) := number 2 (rest.drop 1)
  let (second, rest) := number 2 (rest.drop 1)
  let fraction := if rest.head? == some '.' then (rest.drop 1).takeWhile Char.isDigit else []
  let zone := if rest.head? == some '.' then rest.drop (fraction.length + 1) else rest
  let zone ← zoneText zone
  checkDay year month day
  checkTime hour minute second
  return date ++ " " ++ padded 2 hour ++ ":" ++ padded 2 minute ++ ":" ++ padded 2 second
    ++ fractionText fraction ++ zone

end Rover.Yaml
