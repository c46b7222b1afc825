import RmdsBridge.DateTimes

namespace RmdsBridge

def RsslDate.Real (d : RsslDate) : Prop :=
  (1 ≤ d.year ∧ d.year < 65536) ∧ (1 ≤ d.month ∧ d.month ≤ 12) ∧
    1 ≤ d.day ∧ d.day ≤ Calendar.monthLength (Calendar.isLeap d.year) d.month

/-- The seconds go to 60 for a leap second. -/
def RsslTime.Real (t : RsslTime) : Prop :=
  t.hour < 24 ∧ t.minute < 60 ∧ t.second ≤ 60 ∧
    t.millisecond < 1000 ∧ t.microsecond < 1000 ∧ t.nanosecond < 1000

def RsslDate.Valid (d : RsslDate) : Prop := d = .blank ∨ d.Real

def RsslTime.Valid (t : RsslTime) : Prop := t = .blank ∨ t.Real

def RsslTemporal.Valid : RsslTemporal → Prop
  | .date d => d.Valid
  | .time t => t.Valid
  | .dateTime v => v.date.Valid ∧ v.time.Valid

def RsslDate.yearDay (d : RsslDate) : ℕ :=
  Calendar.daysThrough (Calendar.isLeap d.year) (d.month - 1) + (d.day - 1)

def RsslTemporal.Kept : RsslTemporal → Prop
  | .date _ => True
  | .time t => t = .blank ∨ t.second < 60
  | .dateTime v => v.date ≠ .blank ∧ v.time ≠ .blank ∧ v.time.second < 60 ∧
      v.date.year = 1900 + v.date.yearDay

def UpaAsMamaFieldType.IsDateTime (t : UpaAsMamaFieldType) : RsslDateDataType → Prop
  | .date => t = .time ∨ t = .dateAsTime ∨ t = .timeAsTime
  | .time => t = .time ∨ t = .timeAsTime
  | .dateTime => t = .time ∨ t = .dateAsTime

def roundTrip {T : Type} (m : MamaDateTime T) (c : UPAFieldDecoder) (t : UpaAsMamaFieldType)
    (v : RsslTemporal) : Option RsslTemporal :=
  (c.decodeTemporal m t v).bind fun
    | .dateTime dt => some (UPAFieldEncoder.encodeTemporal m dt v.dataType)
    | .string _ => none

def RsslDate.toDate (d : RsslDate) (h : d.Real) : Calendar.Date where
  year := d.year
  month := d.month
  day := d.day
  month_pos := h.2.1.1
  month_le := h.2.1.2
  day_pos := h.2.2.1
  day_le := h.2.2.2

theorem RsslDate.Real.ne_blank {d : RsslDate} (h : d.Real) : d ≠ .blank := by
  rintro rfl
  exact absurd h.1.1 (by decide)

theorem RsslTime.Real.ne_blank {t : RsslTime} (h : t.Real) : t ≠ .blank := by
  rintro rfl
  exact absurd h.1 (by decide)

theorem getSeconds_toDate {d : RsslDate} (h : d.Real) :
    getSeconds d.year d.month d.day = (d.toDate h).days * 86400 := by
  obtain ⟨-, ⟨hm, hm'⟩, hd, -⟩ := h
  have hy : (d.year : ℤ) - 1900 + 1900 + (d.month - 1) / 12 = d.year := by omega
  have hmon : (((d.month : ℤ) - 1) % 12).toNat = d.month - 1 := by omega
  simp only [getSeconds, timegm, hy, hmon, Calendar.Date.days, Calendar.Date.yearDay,
    RsslDate.toDate]
  omega

theorem gmtime_days (d : Calendar.Date) {r : ℤ} (h : 0 ≤ r) (h' : r < 86400) :
    gmtime (d.days * 86400 + r) =
      { tmYear := d.year - 1900, tmMon := d.month - 1, tmMday := d.day
        tmHour := r / 3600, tmMin := r % 3600 / 60, tmSec := r % 60, tmYday := d.yearDay } := by
  have hd : (d.days * 86400 + r) / 86400 = d.days := by omega
  have hr : (d.days * 86400 + r) % 86400 = r := by omega
  simp only [gmtime, hd, hr, Calendar.Date.ofDays_days]

theorem gmtime_tmMon_nonneg (s : ℤ) : 0 ≤ (gmtime s).tmMon := by
  have := (Calendar.Date.ofDays (s / 86400)).month_pos
  simp only [gmtime]
  omega

theorem gmtime_tmHour_lt (s : ℤ) : (gmtime s).tmHour < 24 := by
  simp only [gmtime]
  omega

theorem gmtime_tmSec_lt (s : ℤ) : (gmtime s).tmSec < 60 := by
  simp only [gmtime]
  omega

namespace UPAFieldEncoder

theorem encodeTimeOfDay_ne_blank (s : ℤ) (n : ℕ) : encodeTimeOfDay (gmtime s) n ≠ .blank := by
  intro h
  have hh := gmtime_tmHour_lt s
  have := congrArg RsslTime.hour h
  simp only [encodeTimeOfDay, RsslTime.blank] at this
  omega

theorem encodeTimeOfDay_iff {t : RsslTime} (h : t.Real) {s : ℤ}
    (hs : s % 86400 = ((t.hour * 3600 + t.minute * 60 + t.second : ℕ) : ℤ) % 86400) :
    encodeTimeOfDay (gmtime s)
        ((t.millisecond * 1000 + t.microsecond) * 1000 + t.nanosecond) = t ↔ t.second < 60 := by
  obtain ⟨hh, hm, -, hms, hus, hns⟩ := h
  constructor
  · intro he
    have hlt := gmtime_tmSec_lt s
    have := congrArg RsslTime.second he
    simp only [encodeTimeOfDay] at this
    omega
  · intro h60
    cases t with
    | mk hour minute second millisecond microsecond nanosecond =>
      simp only at hh hm hms hus hns h60 hs
      simp only [encodeTimeOfDay, gmtime, hs, RsslTime.mk.injEq]
      omega

end UPAFieldEncoder

open UPAFieldEncoder

section

variable {T : Type} {m : MamaDateTime T} {c : UPAFieldDecoder} {t : UpaAsMamaFieldType}

theorem roundTrip_eq {v : RsslTemporal} {dt : T} (h : c.decodeTemporal m t v = some (.dateTime dt)) :
    roundTrip m c t v = some v ↔ encodeTemporal m dt v.dataType = v := by
  simp [roundTrip, h]

theorem date_kept (hm : m.Exact) (hc : c.returnDateTimeAsString = false) (ht : t.IsDateTime .date)
    {d : RsslDate} (hv : d.Valid) : roundTrip m c t (.date d) = some (.date d) := by
  rcases hv with rfl | hr
  · have hd : c.decodeTemporal m t (.date .blank) = some (.dateTime m.create) := by
      rcases ht with rfl | rfl | rfl <;>
        simp [UPAFieldDecoder.decodeTemporal, UPAFieldDecoder.addRsslDateToMsg, hc,
          RsslDateTime.clear, RsslDate.blank]
    rw [roundTrip_eq hd]
    simp [encodeTemporal, RsslTemporal.dataType, encodeDate, hm.create_hasDate]
  · have h0 : d.year ≠ 0 ∧ d.month ≠ 0 ∧ d.day ≠ 0 := by
      obtain ⟨hy, hmon, hday, -⟩ := hr
      omega
    have hd : c.decodeTemporal m t (.date d) = some (.dateTime (m.setHints
        (m.setEpochTimeExt m.create (getSeconds d.year d.month d.day) 0) ⟨true, false⟩)) := by
      rcases ht with rfl | rfl | rfl <;>
        simp [UPAFieldDecoder.decodeTemporal, UPAFieldDecoder.addRsslDateToMsg, hc, hr.ne_blank, h0]
    rw [roundTrip_eq hd]
    have hg := gmtime_days (d.toDate hr) (le_refl 0) (by omega)
    simp only [encodeTemporal, RsslTemporal.dataType, encodeDate, hm.setHints_hasDate, if_true,
      hm.getStructTm_eq, hm.setHints_epoch, hm.setEpochTimeExt_epoch, getSeconds_toDate hr]
    rw [Int.add_zero] at hg
    rw [hg]
    obtain ⟨⟨hy, hy'⟩, -⟩ := hr
    cases d
    simp only [RsslDate.toDate, RsslTemporal.date.injEq, RsslDate.mk.injEq] at hy hy' ⊢
    omega

theorem time_kept_iff (hm : m.Exact) (hc : c.returnDateTimeAsString = false)
    (ht : t.IsDateTime .time) {v : RsslTime} (hv : v.Valid) :
    roundTrip m c t (.time v) = some (.time v) ↔ v = .blank ∨ v.second < 60 := by
  rcases hv with rfl | hr
  · have hd : c.decodeTemporal m t (.time .blank) =
        some (.dateTime (m.clearTime (m.clearDate m.create))) := by
      rcases ht with rfl | rfl <;>
        simp [UPAFieldDecoder.decodeTemporal, UPAFieldDecoder.addRsslTimeToMsg, hc]
    rw [roundTrip_eq hd]
    simp [encodeTemporal, RsslTemporal.dataType, encodeTime, hm.clearTime_hasTime]
  · let dt := m.setTime m.create v.hour v.minute v.second (v.millisecond * 1000 + v.microsecond)
    let dt' := m.setEpochTimeExt dt (m.getEpochTimeExt dt).1
      ((m.getEpochTimeExt dt).2 + v.nanosecond)
    have hd : c.decodeTemporal m t (.time v) = some (.dateTime (m.clearDate dt')) := by
      rcases ht with rfl | rfl <;>
        simp [UPAFieldDecoder.decodeTemporal, UPAFieldDecoder.addRsslTimeToMsg, hc, hr.ne_blank,
          dt, dt']
    have hms : v.millisecond * 1000 + v.microsecond < 1000000 := by
      obtain ⟨-, -, -, h1, h2, -⟩ := hr
      omega
    have he := hm.setTime_epoch m.create _ _ _ _ hr.1 hr.2.1 hr.2.2.1 hms
    have hhas : m.hasTime (m.clearDate dt') = true := by
      rw [hm.clearDate_hasTime]
      exact hm.setEpochTimeExt_hasTime _ _ _ (hm.setTime_hasTime ..)
    have hep : m.getEpochTimeExt (m.clearDate dt') =
        ((m.getEpochTimeExt dt).1 % 86400, (m.getEpochTimeExt dt).2 + v.nanosecond) := by
      rw [hm.clearDate_epoch, hm.setEpochTimeExt_epoch]
    rw [roundTrip_eq hd]
    simp only [encodeTemporal, RsslTemporal.dataType, encodeTime, hhas, if_true, hm.getStructTm_eq,
      hep, RsslTemporal.time.injEq, hr.ne_blank, false_or]
    simp only [dt, he]
    apply encodeTimeOfDay_iff hr
    omega

theorem encodeDateTime_month_ne_zero (hm : m.Exact) (dt : T) :
    (encodeDateTime m dt).date.month ≠ 0 := by
  have := gmtime_tmMon_nonneg (m.getEpochTimeExt dt).1
  simp only [encodeDateTime, hm.getStructTm_eq]
  omega

theorem encodeDateTime_time_ne_blank (hm : m.Exact) {dt : T} (h : m.hasTime dt = true) :
    (encodeDateTime m dt).time ≠ .blank := by
  simp only [encodeDateTime, h, if_true, hm.getStructTm_eq]
  exact encodeTimeOfDay_ne_blank _ _

def dateTimeField (m : MamaDateTime T) (v : RsslDateTime) : T :=
  let dt := m.setToMidnightToday m.create
  let dt :=
    if v.date.year ≠ 0 ∧ v.date.month ≠ 0 ∧ v.date.day ≠ 0 then
      m.setHints (m.setEpochTimeExt dt (getSeconds v.date.year v.date.month v.date.day) 0) ⟨true, false⟩
    else dt
  let dt := m.setTime dt v.time.hour v.time.minute v.time.second
    (v.time.millisecond * 1000 + v.time.microsecond)
  m.setEpochTimeExt dt (m.getEpochTimeExt dt).1 ((m.getEpochTimeExt dt).2 + v.time.nanosecond)

theorem dateTimeField_hasTime (hm : m.Exact) (v : RsslDateTime) :
    m.hasTime (dateTimeField m v) = true :=
  hm.setEpochTimeExt_hasTime _ _ _ (hm.setTime_hasTime ..)

theorem dateTimeField_epoch (hm : m.Exact) {v : RsslDateTime} (hd : v.date.Real)
    (ht : v.time.Real) : m.getEpochTimeExt (dateTimeField m v) =
      ((v.date.toDate hd).days * 86400 +
          (v.time.hour * 3600 + v.time.minute * 60 + v.time.second : ℕ),
        (v.time.millisecond * 1000 + v.time.microsecond) * 1000 + v.time.nanosecond) := by
  have h0 : v.date.year ≠ 0 ∧ v.date.month ≠ 0 ∧ v.date.day ≠ 0 := by
    obtain ⟨hy, hmon, hday, -⟩ := hd
    omega
  obtain ⟨hh, hmin, hsec, hms, hus, -⟩ := ht
  simp only [dateTimeField, if_pos h0, hm.setEpochTimeExt_epoch]
  rw [hm.setTime_epoch _ _ _ _ _ hh hmin hsec (by omega)]
  simp only [hm.setHints_epoch, hm.setEpochTimeExt_epoch, getSeconds_toDate hd]
  rw [Int.mul_ediv_cancel _ (by decide)]

theorem decode_dateTime (hc : c.returnDateTimeAsString = false) (ht : t.IsDateTime .dateTime)
    {v : RsslDateTime} (hv : v ≠ ⟨.blank, .blank⟩) :
    c.decodeTemporal m t (.dateTime v) = some (.dateTime (dateTimeField m v)) := by
  rcases ht with rfl | rfl <;>
    simp [UPAFieldDecoder.decodeTemporal, UPAFieldDecoder.addRsslDateTimeToMsg, hc, hv,
      dateTimeField]

theorem decode_dateTime_blank (hc : c.returnDateTimeAsString = false)
    (ht : t.IsDateTime .dateTime) : c.decodeTemporal m t (.dateTime ⟨.blank, .blank⟩) =
      some (.dateTime (m.clearTime (m.clearDate m.create))) := by
  rcases ht with rfl | rfl <;>
    simp [UPAFieldDecoder.decodeTemporal, UPAFieldDecoder.addRsslDateTimeToMsg, hc]

theorem encodeDateTime_field_iff (hm : m.Exact) {v : RsslDateTime} (hd : v.date.Real)
    (ht : v.time.Real) : encodeDateTime m (dateTimeField m v) = v ↔
      v.time.second < 60 ∧ v.date.year = 1900 + v.date.yearDay := by
  have he := dateTimeField_epoch hm hd ht
  obtain ⟨d, w⟩ := v
  simp only at hd ht he
  have hw := encodeTimeOfDay_iff ht (s := (d.toDate hd).days * 86400 +
    (w.hour * 3600 + w.minute * 60 + w.second : ℕ)) (by omega)
  simp only [encodeDateTime, dateTimeField_hasTime hm, if_true, hm.getStructTm_eq, he,
    RsslDateTime.mk.injEq, hw]
  rw [and_comm]
  apply and_congr_right
  intro h60
  have hr : w.hour * 3600 + w.minute * 60 + w.second < 86400 := by
    obtain ⟨hh, hmin, -⟩ := ht
    omega
  rw [gmtime_days _ (by omega) (by omega)]
  have hlt := (d.toDate hd).yearDay_lt
  have hlen : Calendar.yearLength (d.toDate hd).year ≤ 366 := by
    simp only [Calendar.yearLength]
    split <;> omega
  have hyd : (d.toDate hd).yearDay = d.yearDay := rfl
  cases d
  simp only [RsslDate.toDate, RsslDate.mk.injEq] at hlt hlen hyd ⊢
  omega

theorem dateTime_kept_iff (hm : m.Exact) (hc : c.returnDateTimeAsString = false)
    (ht : t.IsDateTime .dateTime) {v : RsslDateTime} (hv : (RsslTemporal.dateTime v).Valid) :
    roundTrip m c t (.dateTime v) = some (.dateTime v) ↔ (RsslTemporal.dateTime v).Kept := by
  obtain ⟨d, w⟩ := v
  by_cases hb : (⟨d, w⟩ : RsslDateTime) = ⟨.blank, .blank⟩
  · cases hb
    rw [roundTrip_eq (decode_dateTime_blank hc ht)]
    simp only [encodeTemporal, RsslTemporal.dataType, RsslTemporal.dateTime.injEq,
      RsslTemporal.Kept]
    constructor
    · intro h
      exact absurd (congrArg (fun v => v.date.month) h) (encodeDateTime_month_ne_zero hm _)
    · exact fun h => absurd rfl h.1
  · rw [roundTrip_eq (decode_dateTime hc ht hb)]
    simp only [encodeTemporal, RsslTemporal.dataType, RsslTemporal.dateTime.injEq,
      RsslTemporal.Kept]
    obtain ⟨rfl | hd, hw⟩ := hv
    · constructor
      · intro h
        exact absurd (congrArg (fun v => v.date.month) h) (encodeDateTime_month_ne_zero hm _)
      · exact fun h => absurd rfl h.1
    rcases hw with rfl | hw
    · constructor
      · intro h
        exact absurd (congrArg RsslDateTime.time h)
          (encodeDateTime_time_ne_blank hm (dateTimeField_hasTime hm _))
      · exact fun h => absurd rfl h.2.1
    · rw [encodeDateTime_field_iff hm hd hw]
      exact ⟨fun h => ⟨hd.ne_blank, hw.ne_blank, h⟩, fun h => h.2.2⟩

theorem date_times_kept_iff (hm : m.Exact) (hc : c.returnDateTimeAsString = false)
    {v : RsslTemporal} (ht : t.IsDateTime v.dataType) (hv : v.Valid) :
    roundTrip m c t v = some v ↔ v.Kept := by
  cases v with
  | date d => exact iff_of_true (date_kept hm hc ht hv) trivial
  | time w => exact time_kept_iff hm hc ht hv
  | dateTime v => exact dateTime_kept_iff hm hc ht hv

end

structure PlainDateTime where
  seconds : ℤ
  nanoseconds : ℕ
  hints : DateTimeHints
  deriving DecidableEq, Repr

def plainDateTime (today : ℤ) : MamaDateTime PlainDateTime where
  create := ⟨0, 0, ⟨false, false⟩⟩
  setEpochTimeExt _ s n := ⟨s, n, ⟨true, true⟩⟩
  setHints dt h := { dt with hints := h }
  setTime dt hour minute second micro :=
    { seconds := dt.seconds / 86400 * 86400 + (hour * 3600 + minute * 60 + second : ℕ)
      nanoseconds := micro * 1000, hints := { dt.hints with hasTime := true } }
  setToMidnightToday _ := ⟨today * 86400, 0, ⟨true, true⟩⟩
  clearDate dt := { dt with seconds := dt.seconds % 86400, hints := { dt.hints with hasDate := false } }
  clearTime dt :=
    { seconds := dt.seconds / 86400 * 86400, nanoseconds := 0
      hints := { dt.hints with hasTime := false } }
  getEpochTimeExt dt := (dt.seconds, dt.nanoseconds)
  hasDate dt := dt.hints.hasDate
  hasTime dt := dt.hints.hasTime
  getStructTm dt := gmtime dt.seconds

theorem plainDateTime_exact (today : ℤ) : (plainDateTime today).Exact where
  create_hasDate := rfl
  setEpochTimeExt_epoch _ _ _ := rfl
  setEpochTimeExt_hasTime _ _ _ _ := rfl
  setHints_epoch _ _ := rfl
  setHints_hasDate _ _ := rfl
  setTime_epoch _ _ _ _ _ _ _ _ _ := rfl
  setTime_hasTime _ _ _ _ _ := rfl
  clearDate_epoch _ := rfl
  clearDate_hasTime _ := rfl
  clearTime_hasTime _ := rfl
  getStructTm_eq _ := rfl

theorem leap_day_kept : roundTrip (plainDateTime 19782) ⟨false, fun _ _ => ""⟩ .time
    (.date ⟨2024, 2, 29⟩) = some (.date ⟨2024, 2, 29⟩) :=
  (date_times_kept_iff (t := .time) (v := .date ⟨2024, 2, 29⟩) (plainDateTime_exact 19782) rfl
    (Or.inl rfl) (Or.inr ⟨by decide, by decide, by decide⟩)).mpr trivial

theorem leap_day_noon_lost : ¬ ∀ v : RsslTemporal, v.Valid →
    roundTrip (plainDateTime 19782) ⟨false, fun _ _ => ""⟩ .time v = some v := by
  intro h
  have hv : (RsslTemporal.dateTime ⟨⟨2024, 2, 29⟩, ⟨12, 0, 0, 0, 0, 0⟩⟩).Valid :=
    ⟨Or.inr ⟨by decide, by decide, by decide⟩,
      Or.inr ⟨by decide, by decide, by decide, by decide, by decide, by decide⟩⟩
  exact absurd (h _ hv) (by decide +kernel)

end RmdsBridge
