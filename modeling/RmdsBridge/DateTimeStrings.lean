import RmdsBridge.DateTimeCodec
import RmdsBridge.Numerals

namespace RmdsBridge

open Numerals

structure Timestamp where
  date : Calendar.Date
  hour : ℕ
  minute : ℕ
  second : ℕ
  millisecond : ℕ
  year_ge : 1970 ≤ date.year
  year_le : date.year ≤ 9999
  hour_lt : hour < 24
  minute_lt : minute < 60
  second_lt : second < 60
  millisecond_lt : millisecond < 1000

namespace Timestamp

def secondOfDay (w : Timestamp) : ℕ := w.hour * 3600 + w.minute * 60 + w.second

/-- YYYY-mm-dd HH:MM:SS.mmm -/
def text (w : Timestamp) : List Char :=
  padded 4 w.date.year.toNat ++ '-' :: (padded 2 w.date.month ++ '-' :: (padded 2 w.date.day ++
    ' ' :: (padded 2 w.hour ++ ':' :: (padded 2 w.minute ++ ':' :: (padded 2 w.second ++
      '.' :: padded 3 w.millisecond)))))

end Timestamp

def castU32 (v : ℤ) : ℕ := (v % 2 ^ 32).toNat

variable {T : Type}

/-- `UpaFieldPayload::getDateTime` of a string; the last argument of `setTime` is in microseconds. -/
def getDateTimeOfString (m : MamaDateTime T) (asString : List Char) (value : T) : T :=
  let year := castU32 (atoi asString)
  let month := castU32 (atoi (asString.drop 5) - 1)
  let day := castU32 (atoi (asString.drop 8) - 1)
  let value :=
    if year ≠ 0 ∧ month ≠ 0 ∧ day ≠ 0 then
      m.setHints (m.setEpochTimeExt value (getSeconds year month day) 0) ⟨true, false⟩
    else value
  m.setTime value (castU32 (atoi (asString.drop 11))) (castU32 (atoi (asString.drop 14)))
    (castU32 (atoi (asString.drop 17))) (castU32 (atoi (asString.drop 20)))

structure MamaDateTime.Holds (m : MamaDateTime T) (dt : T) (w : Timestamp) : Prop where
  epoch : m.getEpochTimeExt dt = (w.date.days * 86400 + w.secondOfDay, w.millisecond * 1000000)
  hasDate : m.hasDate dt = true
  hasTime : m.hasTime dt = true

def MamaDateTime.OnDate (m : MamaDateTime T) (dt : T) (w : Timestamp) : Prop :=
  m.hasDate dt = true ∧ (m.getEpochTimeExt dt).1 / 86400 = w.date.days

namespace Timestamp

variable {w : Timestamp}

theorem drop_field {n : ℕ} (width k : ℕ) (c : Char) (rest : List Char) (h : n < 10 ^ width)
    (hw : 0 < width) : (padded width n ++ c :: rest).drop (width + 1 + k) = rest.drop k := by
  have hlen := padded_length h hw
  rw [List.drop_append, List.drop_eq_nil_of_le (by omega), List.nil_append, hlen]
  have hk : width + 1 + k - width = k + 1 := by omega
  rw [hk, List.drop_succ_cons]

theorem atoi_field {n : ℕ} (width : ℕ) (c : Char) (rest : List Char) (h : n < 2 ^ 31)
    (hc : c.isDigit = false) : atoi (padded width n ++ c :: rest) = n := by
  apply atoi_padded width h
  intro x hx
  obtain rfl := Option.some.inj hx
  exact hc

theorem month_bounds (w : Timestamp) : 1 ≤ w.date.month ∧ w.date.month < 100 := by
  have hle := w.date.month_le
  exact ⟨w.date.month_pos, by omega⟩

theorem day_bounds (w : Timestamp) : 1 ≤ w.date.day ∧ w.date.day < 100 := by
  have hle := w.date.day_le
  have hlen : Calendar.monthLength (Calendar.isLeap w.date.year) w.date.month ≤ 31 := by
    unfold Calendar.monthLength
    split <;> (try split) <;> omega
  exact ⟨w.date.day_pos, by omega⟩

structure FieldsAt (w : Timestamp) (text : List Char) : Prop where
  year : atoi text = w.date.year
  month : atoi (text.drop 5) = w.date.month
  day : atoi (text.drop 8) = w.date.day
  hour : atoi (text.drop 11) = w.hour
  minute : atoi (text.drop 14) = w.minute
  second : atoi (text.drop 17) = w.second
  millisecond : atoi (text.drop 20) = w.millisecond

theorem text_fieldsAt (w : Timestamp) : w.FieldsAt w.text := by
  have hyear := w.year_ge
  have hyear' := w.year_le
  have hhour := w.hour_lt
  have hminute := w.minute_lt
  have hsecond := w.second_lt
  have hmillisecond := w.millisecond_lt
  have hmonth := w.month_bounds
  have hday := w.day_bounds
  have h5 (k : ℕ) := drop_field (n := w.date.year.toNat) 4 k '-'
    (padded 2 w.date.month ++ '-' :: (padded 2 w.date.day ++ ' ' :: (padded 2 w.hour ++ ':' ::
      (padded 2 w.minute ++ ':' :: (padded 2 w.second ++ '.' :: padded 3 w.millisecond)))))
    (by omega) (by omega)
  have h8 (k : ℕ) := drop_field (n := w.date.month) 2 k '-'
    (padded 2 w.date.day ++ ' ' :: (padded 2 w.hour ++ ':' ::
      (padded 2 w.minute ++ ':' :: (padded 2 w.second ++ '.' :: padded 3 w.millisecond))))
    (by omega) (by omega)
  have h11 (k : ℕ) := drop_field (n := w.date.day) 2 k ' '
    (padded 2 w.hour ++ ':' ::
      (padded 2 w.minute ++ ':' :: (padded 2 w.second ++ '.' :: padded 3 w.millisecond)))
    (by omega) (by omega)
  have h14 (k : ℕ) := drop_field (n := w.hour) 2 k ':'
    (padded 2 w.minute ++ ':' :: (padded 2 w.second ++ '.' :: padded 3 w.millisecond))
    (by omega) (by omega)
  have h17 (k : ℕ) := drop_field (n := w.minute) 2 k ':'
    (padded 2 w.second ++ '.' :: padded 3 w.millisecond) (by omega) (by omega)
  have h20 (k : ℕ) := drop_field (n := w.second) 2 k '.' (padded 3 w.millisecond) (by omega) (by omega)
  constructor
  · rw [text, atoi_field _ _ _ (by omega) (by decide)]
    omega
  · rw [text, h5 0, List.drop_zero, atoi_field _ _ _ (by omega) (by decide)]
  · rw [text, h5 3, h8 0, List.drop_zero, atoi_field _ _ _ (by omega) (by decide)]
  · rw [text, h5 6, h8 3, h11 0, List.drop_zero, atoi_field _ _ _ (by omega) (by decide)]
  · rw [text, h5 9, h8 6, h11 3, h14 0, List.drop_zero, atoi_field _ _ _ (by omega) (by decide)]
  · rw [text, h5 12, h8 9, h11 6, h14 3, h17 0, List.drop_zero,
      atoi_field _ _ _ (by omega) (by decide)]
  · have hnil : ∀ c ∈ ([] : List Char).head?, c.isDigit = false := by simp
    have hend := atoi_padded 3 (n := w.millisecond) (by omega) hnil
    rw [List.append_nil] at hend
    rw [text, h5 15, h8 12, h11 9, h14 6, h17 3, h20 0, List.drop_zero, hend]

end Timestamp

namespace MamaDateTime

variable {m : MamaDateTime T} {w : Timestamp} {value : T}

theorem getDateTimeOfString_text (m : MamaDateTime T) (w : Timestamp) (value : T) :
    getDateTimeOfString m w.text value =
      m.setTime (if w.date.month = 1 ∨ w.date.day = 1 then value
        else m.setHints (m.setEpochTimeExt value
          (getSeconds w.date.year.toNat (w.date.month - 1) (w.date.day - 1)) 0) ⟨true, false⟩)
        w.hour w.minute w.second w.millisecond := by
  obtain ⟨hyear, hmonth, hday, hhour, hminute, hsecond, hmillisecond⟩ := w.text_fieldsAt
  have hy := w.year_ge
  have hy' := w.year_le
  have hmb := w.month_bounds
  have hdb := w.day_bounds
  have hbounds := And.intro w.hour_lt (And.intro w.minute_lt (And.intro w.second_lt w.millisecond_lt))
  have cy : castU32 (w.date.year) = w.date.year.toNat := by unfold castU32; omega
  have cm : castU32 ((w.date.month : ℤ) - 1) = w.date.month - 1 := by unfold castU32; omega
  have cd : castU32 ((w.date.day : ℤ) - 1) = w.date.day - 1 := by unfold castU32; omega
  have cn (n : ℕ) (h : n < 1000) : castU32 (n : ℤ) = n := by unfold castU32; omega
  unfold getDateTimeOfString
  rw [hyear, hmonth, hday, hhour, hminute, hsecond, hmillisecond, cy, cm, cd, cn _ (by omega),
    cn _ (by omega), cn _ (by omega), cn _ (by omega)]
  dsimp only
  by_cases h : w.date.month = 1 ∨ w.date.day = 1
  · rw [if_pos h, if_neg (by omega)]
  · rw [if_neg h, if_pos (by omega)]

theorem getSeconds_before (w : Timestamp) (h : ¬ (w.date.month = 1 ∨ w.date.day = 1)) :
    getSeconds w.date.year.toNat (w.date.month - 1) (w.date.day - 1) / 86400 ≠ w.date.days := by
  have hy := w.year_ge
  have hmb := w.month_bounds
  have hdb := w.day_bounds
  have hle := w.date.month_le
  have hyear : ((w.date.year.toNat : ℕ) : ℤ) - 1900 + 1900 + (((w.date.month - 1 : ℕ) : ℤ) - 1) / 12 =
      w.date.year := by omega
  have hmon : ((((w.date.month - 1 : ℕ) : ℤ) - 1) % 12).toNat = w.date.month - 2 := by omega
  have hmono : Calendar.daysThrough (Calendar.isLeap w.date.year) (w.date.month - 2) ≤
      Calendar.daysThrough (Calendar.isLeap w.date.year) (w.date.month - 1) :=
    Calendar.daysThrough_mono _ (by omega)
  simp only [getSeconds, timegm, hyear, hmon, Calendar.Date.days, Calendar.Date.yearDay]
  omega

theorem holds_iff (hm : m.Exact) (hk : ∀ dt h mi s us, m.hasDate (m.setTime dt h mi s us) = m.hasDate dt)
    (dt : T) : m.Holds (m.setTime dt w.hour w.minute w.second w.millisecond) w ↔
      m.OnDate dt w ∧ w.millisecond = 0 := by
  have hh := w.hour_lt
  have hmi := w.minute_lt
  have hs := w.second_lt
  have hms := w.millisecond_lt
  have hepoch := hm.setTime_epoch dt _ _ _ _ hh hmi hs.le (show w.millisecond < 1000000 by omega)
  constructor
  · rintro ⟨he, hd, -⟩
    rw [hepoch, Prod.mk.injEq] at he
    rw [hk] at hd
    unfold Timestamp.secondOfDay at he
    exact ⟨⟨hd, by omega⟩, by omega⟩
  · rintro ⟨⟨hd, hday⟩, h0⟩
    refine ⟨?_, (hk ..).trans hd, hm.setTime_hasTime ..⟩
    rw [hepoch, hday, h0]
    rfl

def midMarch : Timestamp where
  date := ⟨2024, 3, 15, by decide, by decide, by decide, by decide⟩
  hour := 12
  minute := 0
  second := 0
  millisecond := 0
  year_ge := by decide
  year_le := by decide
  hour_lt := by decide
  minute_lt := by decide
  second_lt := by decide
  millisecond_lt := by decide

def newYear : Timestamp :=
  { midMarch with
    date := ⟨2024, 1, 1, by decide, by decide, by decide, by decide⟩
    year_ge := by decide
    year_le := by decide }

theorem plainDateTime_keepsDate (today : ℤ) (dt : PlainDateTime) (h mi s us : ℕ) :
    (plainDateTime today).hasDate ((plainDateTime today).setTime dt h mi s us) =
      (plainDateTime today).hasDate dt :=
  rfl

theorem midMarch_misread : ¬ ∀ (w : Timestamp) (value : PlainDateTime),
    (plainDateTime 0).Holds (getDateTimeOfString (plainDateTime 0) w.text value) w := by
  intro h
  have hread := h midMarch (plainDateTime 0).create
  rw [getDateTimeOfString_text, if_neg (by decide), holds_iff (plainDateTime_exact 0)
    (plainDateTime_keepsDate 0)] at hread
  exact getSeconds_before midMarch (by decide) hread.1.2

theorem date_time_read_iff (hm : m.Exact)
    (hk : ∀ dt h mi s us, m.hasDate (m.setTime dt h mi s us) = m.hasDate dt) (w : Timestamp) (value : T) :
    m.Holds (getDateTimeOfString m w.text value) w ↔
      (w.date.month = 1 ∨ w.date.day = 1) ∧ m.OnDate value w ∧ w.millisecond = 0 := by
  rw [getDateTimeOfString_text]
  split_ifs with h
  · rw [holds_iff hm hk]
    exact (and_iff_right h).symm
  · rw [holds_iff hm hk]
    refine iff_of_false ?_ fun hc => h hc.1
    rintro ⟨⟨-, hday⟩, -⟩
    rw [hm.setHints_epoch, hm.setEpochTimeExt_epoch] at hday
    exact getSeconds_before w h hday

theorem newYear_read : (plainDateTime 0).Holds
    (getDateTimeOfString (plainDateTime 0) newYear.text ⟨19723 * 86400, 0, ⟨true, false⟩⟩) newYear :=
  (date_time_read_iff (plainDateTime_exact 0) (plainDateTime_keepsDate 0) _ _).mpr
    ⟨Or.inl rfl, ⟨rfl, by decide⟩, rfl⟩

end MamaDateTime

end RmdsBridge
