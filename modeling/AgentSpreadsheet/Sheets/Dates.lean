import AgentSpreadsheet.Library.Faults
import AgentSpreadsheet.Sheets.Floats

/-! Serial numbers of dates. -/
namespace AgentSpreadsheet.Sheets
open Library

/-! ### Calendar dates -/

/-- The number of a day of the calendar, from 1970 on. -/
def fromYmd (year month day : ℤ) : ℤ :=
  let year := if month ≤ 2 then year - 1 else year
  let ofEra := year % 400
  let ofYear := (153 * (month + if month > 2 then -3 else 9) + 2) / 5 + day - 1
  year / 400 * 146097 + (ofEra * 365 + ofEra / 4 - ofEra / 100 + ofYear) - 719468

/-- The first and the last date there are, and how a date is written. -/
structure Calendar where
  first : ℤ
  last : ℤ
  format : ℤ → String
  format_injective : ∀ a b, format a = format b → a = b

/-- The date some days later, where there is one. -/
def Calendar.checkedAddSigned (calendar : Calendar) (date days : ℤ) : Option ℤ :=
  if calendar.first ≤ date + days ∧ date + days ≤ calendar.last then some (date + days) else none

/-- A span of days that its milliseconds do not fit is not built. -/
def durationDays (days : ℤ) : Checked Empty ℤ :=
  if |days * 86400000| ≤ 2 ^ 63 - 1 then .ok days else .error .panicked

/-! ### Serial numbers -/

def excelLeapYearBugSerial : ℤ := 60

/-- `trunc() as i64`: saturated, and zero for `NaN`. -/
def F64.wholeDays : F64 → ℤ
  | .finite d => max (-2 ^ 63) (min (2 ^ 63 - 1) (if 0 ≤ d.1 then d.1.floor else d.1.ceil))
  | .infinite true => -2 ^ 63
  | .infinite false => 2 ^ 63 - 1
  | .nan => 0

/-- The day the serial numbers are counted from. -/
def serialEpoch (use1904System compensateLeapBug : Bool) (days : ℤ) : ℤ :=
  if use1904System then fromYmd 1904 1 1
  else if compensateLeapBug ∧ excelLeapYearBugSerial ≤ days then fromYmd 1899 12 30
  else fromYmd 1899 12 31

section Serials
variable (calendar : Calendar) (display : F64 → String)

/-- The date of a serial number, where there is one. -/
def serialDate (use1904System compensateLeapBug : Bool) (days : ℤ) : Checked Empty (Option ℤ) := do
  let duration ← durationDays days
  pure (calendar.checkedAddSigned (serialEpoch use1904System compensateLeapBug days) duration)

def excelSerialToIsoWithLeapBug (serial : F64) (use1904System compensateLeapBug : Bool) :
    Checked Empty String := do
  let date ← serialDate calendar use1904System compensateLeapBug serial.wholeDays
  pure (date.elim (display serial) calendar.format)

def excelSerialToIso (serial : F64) (use1904System : Bool) : Checked Empty String :=
  excelSerialToIsoWithLeapBug calendar display serial use1904System true

end Serials

/-- The serial numbers that stand for one day: the same, or the two around the leap day that
there was not. -/
def SameDay (use1904System : Bool) (x y : ℤ) : Prop :=
  x = y ∨ use1904System = false ∧ (x = 59 ∧ y = 60 ∨ x = 60 ∧ y = 59)

section Conversion
variable {calendar : Calendar} {display : F64 → String} {use1904System : Bool} {x y : ℤ}

theorem durationDays_eq_ok {days duration : ℤ} :
    durationDays days = .ok duration ↔ |days| ≤ 106751991167 ∧ duration = days := by
  unfold durationDays
  have hbound : |days * 86400000| ≤ 2 ^ 63 - 1 ↔ |days| ≤ 106751991167 := by
    rw [abs_le, abs_le]
    omega
  simp only [hbound]
  split
  next h => simp [h, eq_comm]
  next h => simp [h]

theorem serialDate_ok (calendar : Calendar) (use1904System : Bool) (days : ℤ) :
    (∃ date, serialDate calendar use1904System true days = .ok date) ↔ |days| ≤ 106751991167 := by
  simp only [serialDate, bind_eq_ok, pure_eq_ok, durationDays_eq_ok]
  constructor
  · rintro ⟨_, _, h, _⟩
    exact h.1
  · intro h
    exact ⟨_, _, ⟨h, rfl⟩, rfl⟩

theorem serialEpoch_eq (use1904System : Bool) (days : ℤ) :
    serialEpoch use1904System true days =
      if use1904System then -24107 else if 60 ≤ days then -25569 else -25568 := by
  have h1904 : fromYmd 1904 1 1 = -24107 := by decide
  have h1900 : fromYmd 1899 12 30 = -25569 ∧ fromYmd 1899 12 31 = -25568 := by decide
  unfold serialEpoch
  rw [h1904, h1900.1, h1900.2]
  simp [excelLeapYearBugSerial]

/-- The date of a serial number is its epoch and so many days. -/
theorem serialDate_some {date : ℤ}
    (h : serialDate calendar use1904System true x = .ok (some date)) :
    date = x + if use1904System then -24107 else if 60 ≤ x then -25569 else -25568 := by
  simp only [serialDate, bind_eq_ok, pure_eq_ok, durationDays_eq_ok] at h
  obtain ⟨duration, hduration, hdate⟩ := h
  unfold Calendar.checkedAddSigned at hdate
  split at hdate
  · injection hdate with hdate
    rw [← hdate, hduration.2, serialEpoch_eq, add_comm]
  · contradiction

theorem serialDate_mono {a b : ℤ} (hx : serialDate calendar use1904System true x = .ok (some a))
    (hy : serialDate calendar use1904System true y = .ok (some b)) (h : x ≤ y) : a ≤ b := by
  rw [serialDate_some hx, serialDate_some hy]
  cases use1904System
  · simp only [Bool.false_eq_true, if_false]
    omega
  · simp only [if_true]
    omega

theorem serialDate_eq_iff {a b : ℤ}
    (hx : serialDate calendar use1904System true x = .ok (some a))
    (hy : serialDate calendar use1904System true y = .ok (some b)) :
    a = b ↔ SameDay use1904System x y := by
  rw [serialDate_some hx, serialDate_some hy]
  unfold SameDay
  cases use1904System
  · simp only [Bool.false_eq_true, if_false, true_and]
    omega
  · simp only [if_true, Bool.true_eq_false, false_and, or_false]
    omega

theorem excelSerialToIso_ok {serial : F64} :
    (∃ text, excelSerialToIso calendar display serial use1904System = .ok text) ↔
      |serial.wholeDays| ≤ 106751991167 := by
  rw [← serialDate_ok calendar use1904System]
  simp [excelSerialToIso, excelSerialToIsoWithLeapBug]

theorem excelSerialToIso_date {serial : F64} {date : ℤ}
    (h : serialDate calendar use1904System true serial.wholeDays = .ok (some date)) :
    excelSerialToIso calendar display serial use1904System = .ok (calendar.format date) := by
  simp [excelSerialToIso, excelSerialToIsoWithLeapBug, h]

end Conversion

/-- Which serial numbers convert without a panic, in order and one to one: the ones whose
days make a span of time. -/
theorem date_serials_iff (calendar : Calendar) (display : F64 → String) (use1904System : Bool)
    (x y : F64) :
    ((∃ text, excelSerialToIso calendar display x use1904System = .ok text) ∧
      (∃ text, excelSerialToIso calendar display y use1904System = .ok text) ∧
      ∀ a b, serialDate calendar use1904System true x.wholeDays = .ok (some a) →
        serialDate calendar use1904System true y.wholeDays = .ok (some b) →
        (x.wholeDays ≤ y.wholeDays → a ≤ b) ∧
        (excelSerialToIso calendar display x use1904System =
            excelSerialToIso calendar display y use1904System ↔
          SameDay use1904System x.wholeDays y.wholeDays)) ↔
    |x.wholeDays| ≤ 106751991167 ∧ |y.wholeDays| ≤ 106751991167 := by
  rw [excelSerialToIso_ok, excelSerialToIso_ok]
  constructor
  · intro h
    exact ⟨h.1, h.2.1⟩
  · intro ⟨hx, hy⟩
    refine ⟨hx, hy, ?_⟩
    intro a b ha hb
    constructor
    · exact serialDate_mono ha hb
    · rw [excelSerialToIso_date ha, excelSerialToIso_date hb, Except.ok.injEq,
        ← serialDate_eq_iff ha hb]
      constructor
      · exact calendar.format_injective a b
      · exact congrArg calendar.format

section Sample

/-- The dates of the date library, written as the numbers of their days. -/
def numberedCalendar : Calendar where
  first := fromYmd (-262143) 1 1
  last := fromYmd 262142 12 31
  format day := String.ofList (integerText day)
  format_injective a b h := by
    have hread := congrArg (fun text : String => readInteger text.toList) h
    simp only [String.toList_ofList, readInteger_integerText] at hread
    exact Option.some.inj hread

/-- `1e12`, as a number of a cell. -/
def farSerial : F64 := .finite ⟨10 ^ 12, 10 ^ 12, 0, by norm_num⟩

/-- A number of a cell with a date format that stops the reader. -/
theorem far_serial_panics :
    excelSerialToIso numberedCalendar (fun _ => "1000000000000") farSerial false =
      .error .panicked := by
  have hdays : farSerial.wholeDays = 10 ^ 12 := by
    have hfloor : (10 ^ 12 : ℚ).floor = 10 ^ 12 := by rfl
    simp only [farSerial, F64.wholeDays, hfloor]
    norm_num
  have hnone : ¬ ∃ text, excelSerialToIso numberedCalendar (fun _ => "1000000000000") farSerial
      false = .ok text := by
    rw [excelSerialToIso_ok, hdays]
    norm_num
  cases h : excelSerialToIso numberedCalendar (fun _ => "1000000000000") farSerial false with
  | ok text => exact absurd ⟨text, h⟩ hnone
  | error stop =>
    cases stop with
    | panicked => rfl
    | refused e => exact e.elim

end Sample

end AgentSpreadsheet.Sheets
