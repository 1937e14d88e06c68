/-!
The calendar: dates, times of day, and moments that join the two, with the count of days that links
them to a number of seconds since the first day of 1970.
-/
namespace MachineDescriptor.Calendar

structure Date where
  year : Nat
  month : Nat
  day : Nat
deriving DecidableEq

structure Time where
  hour : Nat
  minute : Nat
  second : Nat
  micro : Nat
deriving DecidableEq

/-- A date and a time of day; `offset` is the distance from universal time in seconds, where it is
known. -/
structure Moment where
  date : Date
  time : Time
  offset : Option Int
deriving DecidableEq

def isLeap (year : Nat) : Bool := (year % 4 == 0 && year % 100 != 0) || year % 400 == 0

def daysInMonth (year month : Nat) : Nat :=
  if month = 2 then if isLeap year then 29 else 28
  else if month = 4 ∨ month = 6 ∨ month = 9 ∨ month = 11 then 30 else 31

/-- The number of a day, counted from the last day of year zero. -/
def Date.number (d : Date) : Nat :=
  let years := d.year - 1
  let months := (List.range' 1 (d.month - 1)).map (daysInMonth d.year)
  years * 365 + years / 4 - years / 100 + years / 400 + months.foldr (· + ·) 0 + d.day

/-- The number of a second in universal time, counted from the last day of year zero; for a moment
without an offset it is that of the clock. -/
def Moment.second (m : Moment) : Int :=
  m.date.number * 86400 + m.time.hour * 3600 + m.time.minute * 60 + m.time.second -
    m.offset.getD 0

/-- Whether two moments are one: both have an offset or neither has, and they lie at the same
time. -/
def Moment.isSame (m n : Moment) : Bool :=
  m.offset.isSome == n.offset.isSome && m.second == n.second && m.time.micro == n.time.micro

/-- Why numbers make no date or time. -/
inductive Fault where
  | year (n : Int)
  | month
  | day
  | hour
  | minute
  | second
  /-- the offset is a whole day or more: its days and the seconds beyond them -/
  | offset (days seconds : Int)

def Fault.message : Fault → String
  | .year n => "year " ++ toString n ++ " is out of range"
  | .month => "month must be in 1..12"
  | .day => "day is out of range for month"
  | .hour => "hour must be in 0..23"
  | .minute => "minute must be in 0..59"
  | .second => "second must be in 0..59"
  | .offset days seconds =>
    "offset must be a timedelta strictly between -timedelta(hours=24) and timedelta(hours=24), " ++
      "not datetime.timedelta(days=" ++ toString days ++
      (if seconds = 0 then "" else ", seconds=" ++ toString seconds) ++ ")."

def maxYear : Nat := 9999

/-- The date of three numbers, of which the first that is out of range is reported. -/
def date (year month day : Nat) : Except Fault Date :=
  if year < 1 ∨ maxYear < year then .error (.year year)
  else if month < 1 ∨ 12 < month then .error .month
  else if day < 1 ∨ daysInMonth year month < day then .error .day
  else .ok ⟨year, month, day⟩

def time (hour minute second micro : Nat) : Except Fault Time :=
  if 23 < hour then .error .hour
  else if 59 < minute then .error .minute
  else if 59 < second then .error .second
  else .ok ⟨hour, minute, second, micro⟩

def secondsPerDay : Int := 86400

/-- An offset from universal time stays below one day in both directions. -/
def offset (seconds : Int) : Except Fault Int :=
  if -secondsPerDay < seconds ∧ seconds < secondsPerDay then .ok seconds
  else .error (.offset (Int.fdiv seconds secondsPerDay) (Int.fmod seconds secondsPerDay))

/-- The year, month and day of a count of days since the first day of 1970. The count is taken from
the first of March of year zero, in eras of 400 years, so that a leap day ends its year. -/
def civil (days : Int) : Int × Nat × Nat :=
  let shifted := days + 719468
  let era := Int.fdiv shifted 146097
  let dayOfEra := (Int.fmod shifted 146097).toNat
  let yearOfEra :=
    (dayOfEra - dayOfEra / 1460 + dayOfEra / 36524 - dayOfEra / 146096) / 365
  let dayOfYear := dayOfEra - (365 * yearOfEra + yearOfEra / 4 - yearOfEra / 100)
  let fromMarch := (5 * dayOfYear + 2) / 153
  let day := dayOfYear - (153 * fromMarch + 2) / 5 + 1
  let month := if fromMarch < 10 then fromMarch + 3 else fromMarch - 9
  (yearOfEra + era * 400 + (if month ≤ 2 then 1 else 0), month, day)

/-- The moment that lies so many microseconds after the start of 1970 in universal time. -/
def ofMicroseconds (count : Int) : Except Fault Moment :=
  let seconds := Int.fdiv count 1000000
  let (year, month, day) := civil (Int.fdiv seconds secondsPerDay)
  let rest := (Int.fmod seconds secondsPerDay).toNat
  if year < 1 ∨ (maxYear : Int) < year then .error (.year year)
  else
    .ok ⟨⟨year.toNat, month, day⟩,
      ⟨rest / 3600, rest / 60 % 60, rest % 60, (Int.fmod count 1000000).toNat⟩, none⟩

/-- A number with zeros in front up to a width. -/
def padded (width n : Nat) : String :=
  let ds := toString n
  String.ofList (List.replicate (width - ds.length) '0') ++ ds

def Date.text (d : Date) : String :=
  padded 4 d.year ++ "-" ++ padded 2 d.month ++ "-" ++ padded 2 d.day

/-- Hours, minutes and seconds. -/
def Time.text (t : Time) : String :=
  padded 2 t.hour ++ ":" ++ padded 2 t.minute ++ ":" ++ padded 2 t.second

/-- Hours, minutes, seconds and thousandths, what lies below them dropped. -/
def Time.millis (t : Time) : String := t.text ++ "." ++ padded 3 (t.micro / 1000)

/-- An offset as a sign, hours and minutes, and seconds when there are some. -/
def offsetText (seconds : Int) : String :=
  let n := seconds.natAbs
  (if seconds < 0 then "-" else "+") ++ padded 2 (n / 3600) ++ ":" ++ padded 2 (n / 60 % 60) ++
    (if n % 60 = 0 then "" else ":" ++ padded 2 (n % 60))

/-- A moment with all its places; microseconds are left out when there are none. -/
def Moment.text (m : Moment) (separator : String) : String :=
  m.date.text ++ separator ++ m.time.text ++
    (if m.time.micro = 0 then "" else "." ++ padded 6 m.time.micro) ++
    (m.offset.map offsetText).getD ""

/-- A moment to the thousandth of a second. -/
def Moment.millis (m : Moment) : String :=
  m.date.text ++ "T" ++ m.time.millis ++ (m.offset.map offsetText).getD ""

example : Date.number ⟨1, 1, 1⟩ = 1 := by decide
example : Date.number ⟨1970, 1, 1⟩ = 719163 := by decide
example : Date.number ⟨2024, 3, 1⟩ - Date.number ⟨2024, 2, 28⟩ = 2 := by decide
example : civil 0 = (1970, 1, 1) := by decide
example : civil (-1) = (1969, 12, 31) := by decide
example : civil 19782 = (2024, 2, 29) := by decide

end MachineDescriptor.Calendar
