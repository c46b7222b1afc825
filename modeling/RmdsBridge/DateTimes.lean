import RmdsBridge.Calendar

namespace RmdsBridge

structure RsslDate where
  year : ℕ
  month : ℕ
  day : ℕ
  deriving DecidableEq, Repr

structure RsslTime where
  hour : ℕ
  minute : ℕ
  second : ℕ
  millisecond : ℕ
  microsecond : ℕ
  nanosecond : ℕ
  deriving DecidableEq, Repr

structure RsslDateTime where
  date : RsslDate
  time : RsslTime
  deriving DecidableEq, Repr

def RsslDate.blank : RsslDate := ⟨0, 0, 0⟩

def RsslTime.blank : RsslTime := ⟨255, 255, 255, 65535, 2047, 2047⟩

def RsslTime.clear : RsslTime := ⟨0, 0, 0, 0, 0, 0⟩

def RsslDateTime.clear : RsslDateTime := ⟨.blank, .clear⟩

structure StructTm where
  tmYear : ℤ
  tmMon : ℤ
  tmMday : ℤ
  tmHour : ℤ
  tmMin : ℤ
  tmSec : ℤ
  tmYday : ℤ
  deriving DecidableEq, Repr

def timegm (tm : StructTm) : ℤ :=
  let y := tm.tmYear + 1900 + tm.tmMon / 12
  let m := (tm.tmMon % 12).toNat
  (Calendar.startOfYear y + Calendar.daysThrough (Calendar.isLeap y) m + (tm.tmMday - 1)) * 86400 +
    tm.tmHour * 3600 + tm.tmMin * 60 + tm.tmSec

def gmtime (seconds : ℤ) : StructTm :=
  let d := Calendar.Date.ofDays (seconds / 86400)
  let r := seconds % 86400
  { tmYear := d.year - 1900, tmMon := d.month - 1, tmMday := d.day
    tmHour := r / 3600, tmMin := r % 3600 / 60, tmSec := r % 60, tmYday := d.yearDay }

def getSeconds (year month day : ℕ) : ℤ :=
  timegm { tmYear := year - 1900, tmMon := month - 1, tmMday := day
           tmHour := 0, tmMin := 0, tmSec := 0, tmYday := 0 }

structure DateTimeHints where
  hasDate : Bool
  hasTime : Bool
  deriving DecidableEq, Repr

structure MamaDateTime (T : Type) where
  create : T
  setEpochTimeExt : T → ℤ → ℕ → T
  setHints : T → DateTimeHints → T
  setTime : T → ℕ → ℕ → ℕ → ℕ → T
  setToMidnightToday : T → T
  clearDate : T → T
  clearTime : T → T
  getEpochTimeExt : T → ℤ × ℕ
  hasDate : T → Bool
  hasTime : T → Bool
  getStructTm : T → StructTm

/-- What the codec relies on. Setting the epoch time may set the hints, but takes none away. -/
structure MamaDateTime.Exact {T : Type} (m : MamaDateTime T) : Prop where
  create_hasDate : m.hasDate m.create = false
  setEpochTimeExt_epoch : ∀ dt s n, m.getEpochTimeExt (m.setEpochTimeExt dt s n) = (s, n)
  setEpochTimeExt_hasTime : ∀ dt s n, m.hasTime dt → m.hasTime (m.setEpochTimeExt dt s n)
  setHints_epoch : ∀ dt h, m.getEpochTimeExt (m.setHints dt h) = m.getEpochTimeExt dt
  setHints_hasDate : ∀ dt h, m.hasDate (m.setHints dt h) = h.hasDate
  setTime_epoch : ∀ dt hour minute second micro,
    hour < 24 → minute < 60 → second ≤ 60 → micro < 1000000 →
    m.getEpochTimeExt (m.setTime dt hour minute second micro) =
      ((m.getEpochTimeExt dt).1 / 86400 * 86400 + (hour * 3600 + minute * 60 + second : ℕ),
        micro * 1000)
  setTime_hasTime : ∀ dt hour minute second micro,
    m.hasTime (m.setTime dt hour minute second micro) = true
  clearDate_epoch : ∀ dt, m.getEpochTimeExt (m.clearDate dt) =
    ((m.getEpochTimeExt dt).1 % 86400, (m.getEpochTimeExt dt).2)
  clearDate_hasTime : ∀ dt, m.hasTime (m.clearDate dt) = m.hasTime dt
  clearTime_hasTime : ∀ dt, m.hasTime (m.clearTime dt) = false
  getStructTm_eq : ∀ dt, m.getStructTm dt = gmtime (m.getEpochTimeExt dt).1

inductive UpaAsMamaFieldType
  | string | bool | char | i8 | u8 | i16 | u16 | i32 | u32 | i64 | u64 | f32 | f64 | time | price
  | realAsF32 | enumAsString | dateAsTime | timeAsTime
  deriving DecidableEq, Repr

inductive RsslDateDataType
  | date
  | time
  | dateTime
  deriving DecidableEq, Repr

inductive MamaDateField (T : Type)
  | dateTime (dt : T)
  | string (s : String)

structure UPAFieldDecoder where
  returnDateTimeAsString : Bool
  rsslDateTimeToString : RsslDateDataType → RsslDateTime → String

def pad2 (n : ℕ) : String := if n < 10 then "0" ++ toString n else toString n

namespace UPAFieldDecoder

variable {T : Type} (m : MamaDateTime T) (c : UPAFieldDecoder)

def addRsslDateToMsg (t : UpaAsMamaFieldType) (v : RsslDateTime) (isBlank : Bool) :
    Option (MamaDateField T) :=
  if c.returnDateTimeAsString then some (.string (c.rsslDateTimeToString .date v))
  else
    match t with
    | .time | .dateAsTime | .timeAsTime =>
      let dt := m.create
      if v.date.year ≠ 0 ∧ v.date.month ≠ 0 ∧ v.date.day ≠ 0 then
        let dt := m.setEpochTimeExt dt (getSeconds v.date.year v.date.month v.date.day) 0
        some (.dateTime (m.setHints dt ⟨true, false⟩))
      else some (.dateTime dt)
    | .string | .enumAsString =>
      some (.string (if isBlank then "" else c.rsslDateTimeToString .date v))
    | _ => none

def addRsslTimeToMsg (t : UpaAsMamaFieldType) (v : RsslDateTime) (isBlank : Bool) :
    Option (MamaDateField T) :=
  if c.returnDateTimeAsString then
    some (.string (pad2 v.time.hour ++ ":" ++ pad2 v.time.minute ++ ":" ++ pad2 v.time.second))
  else
    match t with
    | .time | .timeAsTime =>
      let dt := m.create
      if isBlank then some (.dateTime (m.clearTime (m.clearDate dt)))
      else
        let dt := m.setTime dt v.time.hour v.time.minute v.time.second
          (v.time.millisecond * 1000 + v.time.microsecond)
        let (seconds, nanoseconds) := m.getEpochTimeExt dt
        let dt := m.setEpochTimeExt dt seconds (nanoseconds + v.time.nanosecond)
        some (.dateTime (m.clearDate dt))
    | .string | .enumAsString =>
      some (.string (if isBlank then "" else c.rsslDateTimeToString .time v))
    | _ => none

def addRsslDateTimeToMsg (t : UpaAsMamaFieldType) (v : RsslDateTime) (isBlank : Bool) :
    Option (MamaDateField T) :=
  if c.returnDateTimeAsString then some (.string (c.rsslDateTimeToString .date v))
  else
    match t with
    | .time | .dateAsTime =>
      let dt := m.create
      if isBlank then some (.dateTime (m.clearTime (m.clearDate dt)))
      else
        let dt := m.setToMidnightToday dt
        let dt :=
          if v.date.year ≠ 0 ∧ v.date.month ≠ 0 ∧ v.date.day ≠ 0 then
            m.setHints
              (m.setEpochTimeExt dt (getSeconds v.date.year v.date.month v.date.day) 0) ⟨true, false⟩
          else dt
        let dt := m.setTime dt v.time.hour v.time.minute v.time.second
          (v.time.millisecond * 1000 + v.time.microsecond)
        let (seconds, nanoseconds) := m.getEpochTimeExt dt
        some (.dateTime (m.setEpochTimeExt dt seconds (nanoseconds + v.time.nanosecond)))
    | .string | .enumAsString =>
      some (.string (if isBlank then "" else c.rsslDateTimeToString .date v))
    | _ => none

end UPAFieldDecoder

inductive RsslTemporal
  | date (d : RsslDate)
  | time (t : RsslTime)
  | dateTime (v : RsslDateTime)
  deriving DecidableEq, Repr

def RsslTemporal.dataType : RsslTemporal → RsslDateDataType
  | .date _ => .date
  | .time _ => .time
  | .dateTime _ => .dateTime

/-- The date branches of `DecodeFieldEntry`. A blank value comes as `RSSL_RET_BLANK_DATA`. -/
def UPAFieldDecoder.decodeTemporal {T : Type} (m : MamaDateTime T) (c : UPAFieldDecoder)
    (t : UpaAsMamaFieldType) : RsslTemporal → Option (MamaDateField T)
  | .date d =>
    if d = .blank then c.addRsslDateToMsg m t .clear true
    else c.addRsslDateToMsg m t { RsslDateTime.clear with date := d } false
  | .time v =>
    if v = .blank then c.addRsslTimeToMsg m t .clear true
    else c.addRsslTimeToMsg m t { RsslDateTime.clear with time := v } false
  | .dateTime v =>
    if v = ⟨.blank, .blank⟩ then
      c.addRsslDateTimeToMsg m t { RsslDateTime.clear with date := ⟨1970, 1, 1⟩ } true
    else c.addRsslDateTimeToMsg m t v false

namespace UPAFieldEncoder

variable {T : Type} (m : MamaDateTime T)

/-- The quotients by `1e+06` and `1e+03` are of doubles, but cut to whole numbers on assignment. -/
def encodeTimeOfDay (tm : StructTm) (nanoseconds : ℕ) : RsslTime :=
  let millisecond := nanoseconds / 1000000
  let microsecond := (nanoseconds - millisecond * 1000000) / 1000
  { hour := tm.tmHour.toNat, minute := tm.tmMin.toNat, second := tm.tmSec.toNat
    millisecond := millisecond, microsecond := microsecond
    nanosecond := nanoseconds - millisecond * 1000000 - microsecond * 1000 }

def encodeDate (dt : T) : RsslDate :=
  if m.hasDate dt then
    let tm := m.getStructTm dt
    { year := ((tm.tmYear + 1900) % 65536).toNat, month := (tm.tmMon + 1).toNat
      day := tm.tmMday.toNat }
  else .blank

def encodeTime (dt : T) : RsslTime :=
  if m.hasTime dt then encodeTimeOfDay (m.getStructTm dt) (m.getEpochTimeExt dt).2 else .blank

/-- The year is made of `tm_yday`. -/
def encodeDateTime (dt : T) : RsslDateTime :=
  let tm := m.getStructTm dt
  { date := { year := ((tm.tmYday + 1900) % 65536).toNat, month := (tm.tmMon + 1).toNat
              day := tm.tmMday.toNat }
    time := if m.hasTime dt then encodeTimeOfDay tm (m.getEpochTimeExt dt).2 else .blank }

def encodeTemporal (dt : T) : RsslDateDataType → RsslTemporal
  | .date => .date (encodeDate m dt)
  | .time => .time (encodeTime m dt)
  | .dateTime => .dateTime (encodeDateTime m dt)

end UPAFieldEncoder

end RmdsBridge
