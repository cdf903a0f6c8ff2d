namespace ModelCatalog

structure Date where
  year : Int
  month : Nat
  day : Nat
deriving DecidableEq

namespace Date

def isLeapYear (year : Int) : Bool := year % 4 = 0 && (year % 100 ≠ 0 || year % 400 = 0)

def daysInMonth (year : Int) (month : Nat) : Nat :=
  match month with
  | 2 => if isLeapYear year then 29 else 28
  | 4 | 6 | 9 | 11 => 30
  | _ => 31

-- Years are counted from March, so that the day that only some years have is the last one; then four centuries
-- repeat.
def ofDays (days : Int) : Date :=
  let sinceMarch := days + 719468
  let era := sinceMarch.fdiv 146097
  let day := (sinceMarch.fmod 146097).toNat
  let year := (day - day / 1460 + day / 36524 - day / 146096) / 365
  let day := day - (365 * year + year / 4 - year / 100)
  let month := (5 * day + 2) / 153
  let january : Bool := 10 ≤ month
  ⟨era * 400 + year + (if january then 1 else 0),if january then month - 9 else month + 3,
    day - (153 * month + 2) / 5 + 1⟩

def ofSeconds (seconds : Int) : Date := ofDays (seconds.fdiv 86400)

def monthName (month : Nat) : String :=
  ["Jan","Feb","Mar","Apr","May","Jun","Jul","Aug","Sep","Oct","Nov","Dec"].getD
    (month - 1) ""

def padded (digits n : Nat) : String :=
  let text := toString n
  String.ofList (List.replicate (digits - text.length) '0') ++ text

-- A year has four digits or more, and a sign unless it is one of the first ten thousand.
def yearText (year : Int) : String :=
  let sign := if year < 0 then "-" else if 9999 < year then "+" else ""
  sign ++ padded 4 year.natAbs

def text (d : Date) : String :=
  monthName d.month ++ " " ++ padded 2 d.day ++ ", " ++ yearText d.year

end Date

def dayText (seconds : Int) : String :=
  let d := Date.ofSeconds seconds
  if -262143 ≤ d.year ∧ d.year ≤ 262142 then d.text else "unknown"

end ModelCatalog
