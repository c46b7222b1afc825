import RmdsBridge.BookRender
import RmdsBridge.IntegerFields

namespace RmdsBridge

inductive PayloadStatus
  | ok
  | nullArg
  | invalidArg
  | notFound
  deriving DecidableEq, Repr

inductive MamaFieldType
  | bool
  | char
  | integer (t : MamaIntegerType)
  | f32
  | f64
  | string
  | time
  | price
  | opaqueData
  | msg
  | vectorMsg
  | vectorString
  deriving DecidableEq, Repr

/-- `D` is the type of the doubles, `T` of the date-times, `M` of the payloads of messages. -/
inductive ValueType (D T M : Type)
  | bool (b : Bool)
  | char (c : Char)
  | integer (n : MamaInteger)
  | f32 (d : D)
  | f64 (d : D)
  | string (s : String)
  | time (t : T)
  | price (p : MamaPrice D)
  | opaqueData (bytes : List UInt8)
  | msg (m : M)
  | vectorI8 (ns : List Int8)
  | vectorMsg (ms : List M)
  | vectorString (ss : List String)
  deriving DecidableEq

variable {D T M : Type}

/-- A vector of bytes is stored under the type of its elements. -/
def ValueType.type : ValueType D T M → MamaFieldType
  | .bool _ => .bool
  | .char _ => .char
  | .integer n => .integer n.type
  | .f32 _ => .f32
  | .f64 _ => .f64
  | .string _ => .string
  | .time _ => .time
  | .price _ => .price
  | .opaqueData _ => .opaqueData
  | .msg _ => .msg
  | .vectorI8 _ => .integer .i8
  | .vectorMsg _ => .vectorMsg
  | .vectorString _ => .vectorString

structure UpaFieldPayload (D T M : Type) where
  fid : ℕ
  name : String
  data : ValueType D T M
  deriving DecidableEq

structure UpaPayload (D T M : Type) where
  fields : UnorderedMap ℕ (UpaFieldPayload D T M)

/-- `CHECK_NAME`; the name `none` is a null pointer. -/
def checkName (name : Option String) (fid : ℕ) : PayloadStatus :=
  if fid = 0 ∧ name = none then .nullArg
  else if fid = 0 ∧ name = some "" then .invalidArg
  else .ok

namespace UpaPayload

def clear (_ : UpaPayload D T M) : UpaPayload D T M := ⟨∅⟩

def set (p : UpaPayload D T M) (f : UpaFieldPayload D T M) : UpaPayload D T M :=
  ⟨p.fields.insert f.fid f⟩

/-- The body that the four setters below share. -/
def setIfSameType (p : UpaPayload D T M) (f : UpaFieldPayload D T M) : UpaPayload D T M :=
  match p.fields.find f.fid with
  | some fld => if fld.data.type = f.data.type then ⟨p.fields.insert f.fid f⟩ else p
  | none => ⟨p.fields.insert f.fid f⟩

variable (p : UpaPayload D T M) (fid : ℕ) (name : String)

def setPrice (value : MamaPrice D) : UpaPayload D T M := p.setIfSameType ⟨fid, name, .price value⟩

def setMsg (value : M) : UpaPayload D T M := p.setIfSameType ⟨fid, name, .msg value⟩

def setVectorMsg (value : List M) : UpaPayload D T M :=
  p.setIfSameType ⟨fid, name, .vectorMsg value⟩

def setOpaque (value : List UInt8) : UpaPayload D T M :=
  p.setIfSameType ⟨fid, name, .opaqueData value⟩

def setVectorString (value : List String) : UpaPayload D T M :=
  ⟨p.fields.insert fid ⟨fid, name, .vectorString value⟩⟩

def setVector (value : List Int8) : UpaPayload D T M :=
  ⟨p.fields.insert fid ⟨fid, name, .vectorI8 value⟩⟩

/-- The `upaMsg_set..` functions. -/
def upaMsgSet (name : Option String) (value : ValueType D T M) : UpaPayload D T M :=
  let name := name.getD ""
  match value with
  | .price v => p.setPrice fid name v
  | .msg v => p.setMsg fid name v
  | .vectorMsg v => p.setVectorMsg fid name v
  | .opaqueData v => p.setOpaque fid name v
  | .vectorString v => p.setVectorString fid name v
  | .vectorI8 v => p.setVector fid name v
  | .bool _ | .char _ | .integer _ | .f32 _ | .f64 _ | .string _ | .time _ => p.set ⟨fid, name, value⟩

/-- An `add` or `update` call, which do the same for each type. -/
def write (name : Option String) (value : ValueType D T M) : PayloadStatus × UpaPayload D T M :=
  match checkName name fid with
  | .ok => (.ok, p.upaMsgSet fid name value)
  | status => (status, p)

/-- `order` is the order in which the hash map is walked. -/
def findField (order : List (UpaFieldPayload D T M)) (name : Option String) :
    Option (UpaFieldPayload D T M) :=
  (if fid ≠ 0 then p.fields.find fid else none).or
    (name.bind fun n => order.find? fun f => f.name = n)

def getField (order : List (UpaFieldPayload D T M)) (name : Option String) :
    PayloadStatus × Option (UpaFieldPayload D T M) :=
  match checkName name fid with
  | .ok =>
    match p.findField fid order name with
    | none => (.notFound, none)
    | some f => (.ok, some f)
  | status => (status, none)

def numFields : ℕ := p.fields.size

end UpaPayload

end RmdsBridge
