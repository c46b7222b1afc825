import RmdsBridge.DateTimeStrings
import RmdsBridge.Payload

namespace RmdsBridge

variable {D T M : Type}

inductive GetterStatus
  | payload (s : PayloadStatus)
  | wrongFieldType
  deriving DecidableEq, Repr

inductive Getter
  | bool
  | char
  | integer (t : MamaIntegerType)
  | f32
  | f64
  | string
  | price
  | dateTime
  deriving DecidableEq, Repr

inductive ScalarValue (D T : Type)
  | bool (b : Bool)
  | char (c : Char)
  | integer (n : ℤ)
  | float (d : D)
  | string (s : String)
  | price (p : MamaPrice D)
  | dateTime (dt : T)
  deriving DecidableEq

structure ValueConversions (D T : Type) where
  intToF32 : ℤ → D
  intToF64 : ℤ → D
  f64ToF32 : D → D
  f32ToF64 : D → D
  f32ToInteger : MamaIntegerType → D → ℤ
  f64ToInteger : MamaIntegerType → D → ℤ
  getPropertyValueAsBoolean : String → Bool
  mamaDateTime : MamaDateTime T
  getEpochTimeMicroseconds : T → ℤ
  setEpochTimeMicroseconds : T → ℤ → T
  setEpochTimeF64 : T → D → T

def castInteger (t : MamaIntegerType) (v : ℤ) : ℤ :=
  (v - t.least) % (t.greatest - t.least + 1) + t.least

def castChar (v : ℤ) : Char := Char.ofNat (v % 256).toNat

def charToInt (c : Char) : ℤ := (c.toNat : ℤ).bmod 256

namespace ValueType

variable (c : ValueConversions D T)

/-- The variant behind the type: a vector of bytes leaves it at an 8-bit zero. -/
def integer? : ValueType D T M → Option ℤ
  | .integer n => some n.value
  | .vectorI8 _ => some 0
  | _ => none

def strictBool : ValueType D T M → Option Bool
  | .bool b => some b
  | _ => none

def strictChar : ValueType D T M → Option Char
  | .char ch => some ch
  | _ => none

def strictString : ValueType D T M → Option String
  | .string s => some s
  | _ => none

def getMamaBool (v : ValueType D T M) : Option Bool :=
  match v.integer? with
  | some n => some (n != 0)
  | none =>
    match v with
    -- the pointer to a date-time is compared with 0
    | .time _ => some true
    | .string s => some (c.getPropertyValueAsBoolean s)
    | .bool b => some b
    | .char ch => some (ch != '\x00')
    | _ => none

def getChar (v : ValueType D T M) : Option Char :=
  match v.integer? with
  | some n => some (castChar n)
  | none => v.strictChar

/-- The body that the integer getters share. -/
def getNumber (t : MamaIntegerType) (v : ValueType D T M) : Option ℤ :=
  match v.integer? with
  | some n => some (castInteger t n)
  | none =>
    match v with
    | .f32 d => some (c.f32ToInteger t d)
    | .f64 d => some (c.f64ToInteger t d)
    | .price p => some (c.f64ToInteger t p.value)
    | _ => none

def getI8 (v : ValueType D T M) : Option ℤ := v.getNumber c .i8

def getU8 (v : ValueType D T M) : Option ℤ := v.getNumber c .u8

def getI16 (v : ValueType D T M) : Option ℤ := v.getNumber c .i16

def getU16 (v : ValueType D T M) : Option ℤ := v.getNumber c .u16

def getI32 : ValueType D T M → Option ℤ
  | .char ch => some (charToInt ch)
  | v => v.getNumber c .i32

def getU32 (v : ValueType D T M) : Option ℤ := v.getNumber c .u32

def getI64 (v : ValueType D T M) : Option ℤ := v.getNumber c .i64

def getU64 : ValueType D T M → Option ℤ
  | .time dt => some (c.getEpochTimeMicroseconds dt)
  | v => v.getNumber c .u64

def getInteger (v : ValueType D T M) : MamaIntegerType → Option ℤ
  | .i8 => v.getI8 c
  | .u8 => v.getU8 c
  | .i16 => v.getI16 c
  | .u16 => v.getU16 c
  | .i32 => v.getI32 c
  | .u32 => v.getU32 c
  | .i64 => v.getI64 c
  | .u64 => v.getU64 c

def getF32 (v : ValueType D T M) : Option D :=
  match v.integer? with
  | some n => some (c.intToF32 n)
  | none =>
    match v with
    | .f32 d => some d
    | .f64 d => some (c.f64ToF32 d)
    | .price p => some (c.f64ToF32 p.value)
    | _ => none

def getF64 (v : ValueType D T M) : Option D :=
  match v.integer? with
  | some n => some (c.intToF64 n)
  | none =>
    match v with
    | .f32 d => some (c.f32ToF64 d)
    | .f64 d => some d
    | .price p => some p.value
    | _ => none

/-- The value of a number is set into the price that is passed; its precision stays. -/
def getPrice (v : ValueType D T M) (value : MamaPrice D) : Option (MamaPrice D) :=
  match v.integer? with
  | some n => some { value with value := c.intToF64 n }
  | none =>
    match v with
    | .f32 d => some { value with value := c.f32ToF64 d }
    | .f64 d => some { value with value := d }
    | .price p => some p
    | _ => none

def getDateTime (v : ValueType D T M) (value : T) : Option T :=
  match v with
  | .integer n => if n.type = .u64 then some (c.setEpochTimeMicroseconds value n.value) else none
  | .time dt => some dt
  | .f64 d => some (c.setEpochTimeF64 value d)
  | .string s => some (getDateTimeOfString c.mamaDateTime s.toList value)
  | _ => none

end ValueType

def readResult : Option (ScalarValue D T) → GetterStatus × Option (ScalarValue D T)
  | some v => (.payload .ok, some v)
  | none => (.wrongFieldType, none)

structure Passed (D T : Type) where
  price : MamaPrice D
  dateTime : T

/-- The overloads that the `upaMsg_get..` functions resolve to for the field that is found. -/
def ValueType.messageRead (c : ValueConversions D T) (v : ValueType D T M) (passed : Passed D T) :
    Getter → Option (ScalarValue D T)
  | .bool => v.strictBool.map .bool
  | .char => v.strictChar.map .char
  | .integer t => (v.getInteger c t).map .integer
  | .f32 => (v.getF32 c).map .float
  | .f64 => (v.getF64 c).map .float
  | .string => v.strictString.map .string
  | .price => (v.getPrice c passed.price).map .price
  | .dateTime => (v.getDateTime c passed.dateTime).map .dateTime

/-- The functions that the `tick42rmdsmsgFieldPayload_get..` functions call. -/
def ValueType.fieldRead (c : ValueConversions D T) (v : ValueType D T M) (passed : Passed D T) :
    Getter → Option (ScalarValue D T)
  | .bool => (v.getMamaBool c).map .bool
  | .char => v.getChar.map .char
  | .integer t => (v.getInteger c t).map .integer
  | .f32 => (v.getF32 c).map .float
  | .f64 => (v.getF64 c).map .float
  | .string => v.strictString.map .string
  | .price => (v.getPrice c passed.price).map .price
  | .dateTime => (v.getDateTime c passed.dateTime).map .dateTime

def UpaPayload.get (c : ValueConversions D T) (p : UpaPayload D T M) (fid : ℕ)
    (order : List (UpaFieldPayload D T M)) (name : Option String) (passed : Passed D T) (g : Getter) :
    GetterStatus × Option (ScalarValue D T) :=
  match checkName name fid with
  | .ok =>
    match p.findField fid order name with
    | none => (.payload .notFound, none)
    | some f => readResult (f.data.messageRead c passed g)
  | status => (.payload status, none)

def UpaFieldPayload.get (c : ValueConversions D T) (f : UpaFieldPayload D T M) (passed : Passed D T)
    (g : Getter) : GetterStatus × Option (ScalarValue D T) :=
  readResult (f.data.fieldRead c passed g)

def Getter.convertsInField : Getter → MamaFieldType → Bool
  | .bool, .integer _ | .bool, .time | .bool, .string | .bool, .char => true
  | .char, .integer _ => true
  | _, _ => false

section

variable {c : ValueConversions D T} {p : UpaPayload D T M} {fid : ℕ}
  {order : List (UpaFieldPayload D T M)} {name : Option String} {f : UpaFieldPayload D T M}
  {passed : Passed D T}

theorem readResult_injective {o o' : Option (ScalarValue D T)} :
    readResult o = readResult o' ↔ o = o' := by
  cases o <;> cases o' <;> simp [readResult]

theorem UpaPayload.get_found (hf : p.getField fid order name = (.ok, some f)) (g : Getter) :
    p.get c fid order name passed g = readResult (f.data.messageRead c passed g) := by
  unfold UpaPayload.getField at hf
  unfold UpaPayload.get
  cases hn : checkName name fid with
  | ok =>
    rw [hn] at hf
    cases hfind : p.findField fid order name with
    | none => rw [hfind] at hf; cases hf
    | some f' =>
      rw [hfind] at hf
      cases hf
      rfl
  | nullArg | invalidArg | notFound => rw [hn] at hf; cases hf

theorem ValueType.bool_read_iff (v : ValueType D T M) :
    v.messageRead c passed .bool = v.fieldRead c passed .bool ↔
      Getter.bool.convertsInField v.type = false := by
  cases v <;> simp [messageRead, fieldRead, strictBool, getMamaBool, integer?, type, Getter.convertsInField]

theorem ValueType.char_read_iff (v : ValueType D T M) :
    v.messageRead c passed .char = v.fieldRead c passed .char ↔
      Getter.char.convertsInField v.type = false := by
  cases v <;> simp [messageRead, fieldRead, strictChar, getChar, integer?, type, Getter.convertsInField]

theorem ValueType.read_iff (v : ValueType D T M) (g : Getter) :
    v.messageRead c passed g = v.fieldRead c passed g ↔ g.convertsInField v.type = false := by
  cases g with
  | bool => exact v.bool_read_iff
  | char => exact v.char_read_iff
  | integer t | f32 | f64 | string | price | dateTime => exact iff_of_true rfl rfl

end

def plainConversions : ValueConversions ℤ PlainDateTime where
  intToF32 := id
  intToF64 := id
  f64ToF32 := id
  f32ToF64 := id
  f32ToInteger := castInteger
  f64ToInteger := castInteger
  getPropertyValueAsBoolean s := s = "true"
  mamaDateTime := plainDateTime 0
  getEpochTimeMicroseconds dt := dt.seconds * 1000000 + dt.nanoseconds / 1000
  setEpochTimeMicroseconds dt n := { dt with seconds := n / 1000000, nanoseconds := (n % 1000000).toNat * 1000 }
  setEpochTimeF64 dt d := { dt with seconds := d, nanoseconds := 0 }

def flagField : UpaFieldPayload ℤ PlainDateTime Unit :=
  ⟨7, "Flag", .integer ⟨.i32, 1, by decide, by decide⟩⟩

def flagPayload : UpaPayload ℤ PlainDateTime Unit := UpaPayload.set ⟨∅⟩ flagField

theorem integer_as_bool_differs : ¬ ∀ (p : UpaPayload ℤ PlainDateTime Unit) (fid : ℕ)
    (order : List (UpaFieldPayload ℤ PlainDateTime Unit)) (name : Option String)
    (f : UpaFieldPayload ℤ PlainDateTime Unit) (passed : Passed ℤ PlainDateTime) (g : Getter),
    p.getField fid order name = (.ok, some f) →
      p.get plainConversions fid order name passed g = f.get plainConversions passed g := by
  intro h
  have hfound : flagPayload.getField 7 [flagField] (some "Flag") = (.ok, some flagField) := by decide
  have hsame := h _ _ _ _ _ ⟨⟨0, .int⟩, (plainDateTime 0).create⟩ .bool hfound
  rw [UpaPayload.get_found hfound] at hsame
  exact absurd (flagField.data.read_iff .bool |>.mp (readResult_injective.mp hsame)) (by decide)

theorem getters_agree_iff (c : ValueConversions D T) (p : UpaPayload D T M) (fid : ℕ)
    (order : List (UpaFieldPayload D T M)) (name : Option String) (f : UpaFieldPayload D T M)
    (passed : Passed D T) (g : Getter) (hf : p.getField fid order name = (.ok, some f)) :
    p.get c fid order name passed g = f.get c passed g ↔ g.convertsInField f.data.type = false := by
  rw [UpaPayload.get_found hf, UpaFieldPayload.get, readResult_injective]
  exact f.data.read_iff g

theorem integer_as_price_agrees :
    flagPayload.get plainConversions 7 [flagField] (some "Flag") ⟨⟨0, .int⟩, (plainDateTime 0).create⟩ .price =
      flagField.get plainConversions ⟨⟨0, .int⟩, (plainDateTime 0).create⟩ .price :=
  (getters_agree_iff plainConversions flagPayload 7 [flagField] (some "Flag") flagField _ .price
    (by decide)).mpr rfl

end RmdsBridge
