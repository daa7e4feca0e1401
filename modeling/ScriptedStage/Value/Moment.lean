import ScriptedStage.Numeric.Read

/-!
Dates as points in time. A value keeps a date as it was written; to compare two of them they are
read as a day, a time of day and a zone. A day and a time on a day have no order between them, and
neither have a time with a zone and one without.
-/
namespace ScriptedStage

/-- A day, or a time on a day. -/
structure Moment where
  /-- The number of the day; the first day of the year 1 has the number 1. -/
  day : Nat
  /-- The microseconds since midnight, if a time is given. -/
  time : Option Nat := none
  /-- How many minutes the zone is ahead, if a zone is given. -/
  zone : Option Int := none
  deriving DecidableEq, Repr

namespace Moment

/-- The numbers in a text: the values of its runs of digits. The first argument bounds
how many there are. -/
def digitRuns : Nat → List Char → List Nat
  | 0, _ => []
  | n + 1, cs =>
    match cs.dropWhile (!·.isDigit) with
    | [] => []
    | rest => Numeric.digitsValue (rest.takeWhile Char.isDigit) :: digitRuns n (rest.dropWhile Char.isDigit)

/-- Whether a year has a day at the end of February. -/
def isLeapYear (year : Nat) : Bool := (year % 4 = 0 && year % 100 ≠ 0) || year % 400 = 0

/-- How many days a month has. -/
def daysIn (year month : Nat) : Nat :=
  match month with
  | 2 => if isLeapYear year then 29 else 28
  | 4 | 6 | 9 | 11 => 30
  | _ => 31

/-- The number of a day. -/
def dayNumber (year month day : Nat) : Nat :=
  let past := year - 1
  365 * past + past / 4 - past / 100 + past / 400 +
    (List.range (month - 1)).foldl (fun days m => days + daysIn year (m + 1)) 0 + day

/-- The minutes that a zone is ahead: `Z` stands for none, a text without a zone has none. -/
def readZone (cs : List Char) : Option Int :=
  match cs.dropWhile fun c => c = ' ' || c = '\t' with
  | [] => none
  | 'Z' :: _ => some 0
  | sign :: rest =>
    let minutes := match digitRuns 2 rest with
      | [h] => 60 * h
      | [h, m] => 60 * h + m
      | _ => 0
    some (if sign = '-' then -(minutes : Int) else minutes)

/-- The microseconds of the digits behind a point; more than six are not looked at. -/
def microseconds (fraction : List Char) : Nat :=
  Numeric.digitsValue ((fraction ++ List.replicate 6 '0').take 6)

/-- Reads a date as it is written. -/
def read (written : String) : Moment :=
  let (date, rest) := written.toList.span fun c => c.isDigit || c = '-'
  let day := match digitRuns 3 date with
    | [y, m, d] => dayNumber y m d
    | _ => 0
  match rest.dropWhile (!·.isDigit) with
  | [] => { day := day }
  | clock =>
    let (whole, rest) := clock.span fun c => c.isDigit || c = ':'
    let (fraction, rest) := match rest with
      | '.' :: rest => rest.span Char.isDigit
      | rest => ([], rest)
    let seconds := (digitRuns 3 whole).foldl (fun n d => 60 * n + d) 0
    { day := day, time := some (1000000 * seconds + microseconds fraction), zone := readZone rest }

/-- Whether two moments are of one kind, and so have an order. -/
def isLike (a b : Moment) : Bool := a.time.isSome == b.time.isSome && a.zone.isSome == b.zone.isSome

/-- The microseconds up to a moment, by the clock of the zone without an offset. -/
def instant (m : Moment) : Int := 86400000000 * m.day + m.time.getD 0 - 60000000 * m.zone.getD 0

/-- Whether two moments are the same. -/
def same (a b : Moment) : Bool := a.isLike b && a.instant == b.instant

/-- Whether a moment comes before another, if they have an order. -/
def before? (a b : Moment) : Option Bool := if a.isLike b then some (a.instant < b.instant) else none

-- three ways to write one moment, and a day
example : (read "2001-12-15T02:59:43.1Z").same (read "2001-12-14t21:59:43.10-05:00") = true := by decide
example : (read "2001-12-14 21:59:43.10 -5").same (read "2001-12-15T02:59:43.100Z") = true := by decide
example : (read "2002-12-14").before? (read "2002-12-15 2:59:43") = none := by decide

end Moment

end ScriptedStage
