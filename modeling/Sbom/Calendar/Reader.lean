import Sbom.Calendar.Instant
import Sbom.Text.Blank

/-!
# Reading instants

The accepted text of an instant is RFC 3339 with some leeway: numbers may be shorter and may follow
blanks, the date may be parted from the time by a blank, the fraction may have any number of digits
and the colon of the offset may be missing. Every value is checked as soon as it is read; whether
the day exists is checked last.
-/

namespace Sbom.Calendar

/-- Why a text is no instant. -/
inductive DateFault where
  /-- A number is outside its range, or the day does not exist. -/
  | outOfRange
  /-- The offset moves the instant out of the supported years. -/
  | impossible
  /-- A character that cannot stand here. -/
  | invalid
  /-- The text ends too early. -/
  | tooShort
  /-- The text goes on after the instant. -/
  | tooLong
deriving DecidableEq

/-- The wording of a fault. -/
def DateFault.message : DateFault → String
  | .outOfRange => "input is out of range"
  | .impossible => "no possible date and time matching input"
  | .invalid => "input contains invalid characters"
  | .tooShort => "premature end of input"
  | .tooLong => "trailing input"

/-- The first characters of a text, at most `limit`, that are digits. -/
def digitRun (limit : Nat) (text : List Char) : List Char :=
  (text.take limit).takeWhile Text.isDigit

/-- A number of at least one digit and at most `limit` digits. -/
def readNumber (limit : Nat) (text : List Char) : Except DateFault (List Char × List Char) :=
  match text with
  | [] => .error .tooShort
  | _ =>
    match digitRun limit text with
    | [] => .error .invalid
    | digits => .ok (digits, text.drop digits.length)

/-- One given character. -/
def readChar (expected : Char) : List Char → Except DateFault (List Char)
  | [] => .error .tooShort
  | c :: rest => if c = expected then .ok rest else .error .invalid

/-- A number of one or two digits between the bounds, after blanks. -/
def readField (low high : Nat) (text : List Char) : Except DateFault (Nat × List Char) := do
  let (digits, rest) ← readNumber 2 (Text.trimStart text)
  let value := Text.decimalValue digits
  if low ≤ value ∧ value ≤ high then return (value, rest) else .error .outOfRange

/-- The year of a date, after blanks: up to four digits, or a sign and any number of digits. -/
def readYear (text : List Char) : Except DateFault (Int × List Char) := do
  let text := Text.trimStart text
  let (year, rest) ← match text with
    | '-' :: digits => do
      let (digits, rest) ← readNumber digits.length digits
      pure (-(Text.decimalValue digits : Int), rest)
    | '+' :: digits => do
      let (digits, rest) ← readNumber digits.length digits
      pure ((Text.decimalValue digits : Int), rest)
    | _ => do
      let (digits, rest) ← readNumber 4 text
      pure ((Text.decimalValue digits : Int), rest)
  if -2147483648 ≤ year ∧ year ≤ 2147483647 then return (year, rest) else .error .outOfRange

/-- The separator of date and time. -/
def readSeparator : List Char → Except DateFault (List Char)
  | [] => .error .tooShort
  | c :: rest => if c = 'T' ∨ c = 't' ∨ c = ' ' then .ok rest else .error .invalid

/-- The nanoseconds of a fraction, if there is one. Digits after the ninth do not count. -/
def readFraction : List Char → Except DateFault (Nat × List Char)
  | '.' :: rest => do
    let (digits, tail) ← readNumber 9 rest
    return (Text.decimalValue digits * Nat.pow 10 (9 - digits.length), tail.dropWhile Text.isDigit)
  | text => .ok (0, text)

/-- Two characters that have to be digits, the first of them at most `highest`. The text is too
short only when less than two bytes are left. -/
def readPair (highest : Char) : List Char → Except DateFault (Nat × List Char)
  | a :: b :: rest =>
    if Text.isDigit a && Text.isDigit b then
      if a ≤ highest then .ok (Text.digitValue a * 10 + Text.digitValue b, rest)
      else .error .outOfRange
    else .error .invalid
  | [a] => if a.toNat < 0x80 then .error .tooShort else .error .invalid
  | [] => .error .tooShort

/-- The hours and minutes of an offset, in minutes. Colons and blanks may part them. -/
def readOffsetBody (text : List Char) : Except DateFault (Nat × List Char) := do
  let (hours, rest) ← readPair '9' text
  let rest := rest.dropWhile fun c => c == ':' || Text.isBlank c
  let (minutes, rest) ← readPair '5' rest
  return (hours * 60 + minutes, rest)

/-- Whether a text starts with the letters of `UTC` in any case. -/
def startsWithUtc : List Char → Bool
  | u :: t :: c :: _ =>
    (u == 'U' || u == 'u') && (t == 'T' || t == 't') && (c == 'C' || c == 'c')
  | _ => false

/-- The offset from UTC in minutes, after blanks. -/
def readOffset (text : List Char) : Except DateFault (Int × List Char) := do
  let text := Text.trimStart text
  if startsWithUtc text then return (0, text.drop 3)
  match text with
  | [] => .error .tooShort
  | c :: rest =>
    if c = 'Z' ∨ c = 'z' then return (0, rest)
    else if c = '+' then do
      let (minutes, rest) ← readOffsetBody rest
      return ((minutes : Int), rest)
    else if c = '-' ∨ c.toNat = 0x2212 then do
      let (minutes, rest) ← readOffsetBody rest
      return (-(minutes : Int), rest)
    else .error .invalid

/-- The parts of an instant as they are written, before the offset is applied. -/
structure Written where
  /-- The year. -/
  year : Int
  /-- The month, from one. -/
  month : Nat
  /-- The day of the month, from one. -/
  day : Nat
  /-- The hour. -/
  hour : Nat
  /-- The minute. -/
  minute : Nat
  /-- The second. -/
  second : Nat
  /-- The nanosecond. -/
  nanosecond : Nat
  /-- The offset from UTC in minutes. -/
  offset : Int

/-- The parts of an instant at the start of a text. -/
def readWritten (text : List Char) : Except DateFault (Written × List Char) := do
  let (year, text) ← readYear text
  let text ← readChar '-' (Text.trimStart text)
  let (month, text) ← readField 1 12 text
  let text ← readChar '-' (Text.trimStart text)
  let (day, text) ← readField 1 31 text
  let text ← readSeparator text
  let (hour, text) ← readField 0 23 text
  let text ← readChar ':' (Text.trimStart text)
  let (minute, text) ← readField 0 59 text
  let text ← readChar ':' (Text.trimStart text)
  let (second, text) ← readField 0 60 text
  let (nanosecond, text) ← readFraction text
  let (offset, text) ← readOffset text
  return (⟨year, month, day, hour, minute, second, nanosecond, offset⟩, text)

/-- The instant at a minute counted from the start of a day; the minute may lie in the day before
or after. -/
def Instant.atMinute? (date : Date) (minuteOfDay : Int) (second nanosecond : Nat) :
    Option Instant := do
  let date ←
    if minuteOfDay < 0 then date.previous?
    else if 1440 ≤ minuteOfDay then date.next?
    else some date
  let minutes := (minuteOfDay % 1440).toNat
  if valid : minutes / 60 < 24 ∧ second ≤ 60 ∧ nanosecond < 1000000000 then
    return ⟨date, minutes / 60, minutes % 60, second, nanosecond, valid.1,
      Nat.mod_lt _ (by decide), valid.2.1, valid.2.2⟩
  else none

/-- The instant that written parts denote. -/
def Written.instant (written : Written) : Except DateFault Instant :=
  match Date.ofYmd? written.year written.month written.day with
  | none => .error .outOfRange
  | some date =>
    if -1440 < written.offset ∧ written.offset < 1440 then
      match Instant.atMinute? date (written.hour * 60 + written.minute - written.offset)
          written.second written.nanosecond with
      | some instant => .ok instant
      | none => .error .impossible
    else .error .outOfRange

/-- Reads an instant from a text that holds nothing else. -/
def Instant.parse (text : String) : Except DateFault Instant := do
  let (written, rest) ← readWritten text.toList
  if (Text.trimStart rest).isEmpty then written.instant else .error .tooLong

end Sbom.Calendar
