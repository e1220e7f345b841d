import MessageEngine.Bytes

/-!
# Wire types

A field of a message has a wire type: a fixed-width scalar, a boolean, a
text, an octet blob, a sequence or an optional value, nested at will.
`WireType.Value` is the type of the values that travel under a wire type.

Floats are carried as their IEEE bit patterns, so that a NaN keeps its
payload and equality of values is equality of what is written.
-/

namespace MessageEngine

/-- The scalars: whole numbers and floats of fixed width. -/
inductive Scalar
  | u8 | i8 | u16 | i16 | u32 | i32 | u64 | i64 | f32 | f64
  deriving DecidableEq, Repr

namespace Scalar

def all : List Scalar := [u8, i8, u16, i16, u32, i32, u64, i64, f32, f64]

def name : Scalar → String
  | u8 => "u8"
  | i8 => "i8"
  | u16 => "u16"
  | i16 => "i16"
  | u32 => "u32"
  | i32 => "i32"
  | u64 => "u64"
  | i64 => "i64"
  | f32 => "f32"
  | f64 => "f64"

def ofName? (name : String) : Option Scalar := all.find? (·.name = name)

/-- How many octets the scalar takes. -/
def width : Scalar → Nat
  | u8 | i8 => 1
  | u16 | i16 => 2
  | u32 | i32 | f32 => 4
  | u64 | i64 | f64 => 8

/-- The values of the scalar; a float is its bit pattern. -/
abbrev Value : Scalar → Type
  | u8 => UInt8
  | i8 => Int8
  | u16 => UInt16
  | i16 => Int16
  | u32 | f32 => UInt32
  | i32 => Int32
  | u64 | f64 => UInt64
  | i64 => Int64

/-- The value as an unsigned number of the scalar's width. -/
def toNumber : (s : Scalar) → s.Value → Nat
  | u8, v => UInt8.toNat v
  | i8, v => (Int8.toUInt8 v).toNat
  | u16, v => UInt16.toNat v
  | i16, v => (Int16.toUInt16 v).toNat
  | u32, v | f32, v => UInt32.toNat v
  | i32, v => (Int32.toUInt32 v).toNat
  | u64, v | f64, v => UInt64.toNat v
  | i64, v => (Int64.toUInt64 v).toNat

/-- The value with the given unsigned number, taken modulo the scalar's range. -/
def ofNumber : (s : Scalar) → Nat → s.Value
  | u8, n => UInt8.ofNat n
  | i8, n => (UInt8.ofNat n).toInt8
  | u16, n => UInt16.ofNat n
  | i16, n => (UInt16.ofNat n).toInt16
  | u32, n | f32, n => UInt32.ofNat n
  | i32, n => (UInt32.ofNat n).toInt32
  | u64, n | f64, n => UInt64.ofNat n
  | i64, n => (UInt64.ofNat n).toInt64

/-- Whether the scalar is a float. -/
def isFloat : Scalar → Bool
  | f32 | f64 => true
  | _ => false

/-- The value as a whole number: with its sign, if the scalar has one. -/
def toInt : (s : Scalar) → s.Value → Int
  | i8, v => Int8.toInt v
  | i16, v => Int16.toInt v
  | i32, v => Int32.toInt v
  | i64, v => Int64.toInt v
  | s, v => s.toNumber v

def zero (s : Scalar) : s.Value := s.ofNumber 0

theorem toNumber_lt (s : Scalar) (v : s.Value) : s.toNumber v < Bytes.capacity s.width := by
  cases s <;> simp only [toNumber, width]
  case u8 => exact UInt8.toNat_lt v
  case i8 => exact UInt8.toNat_lt _
  case u16 => exact UInt16.toNat_lt v
  case i16 => exact UInt16.toNat_lt _
  case u32 => exact UInt32.toNat_lt v
  case f32 => exact UInt32.toNat_lt v
  case i32 => exact UInt32.toNat_lt _
  case u64 => exact UInt64.toNat_lt v
  case f64 => exact UInt64.toNat_lt v
  case i64 => exact UInt64.toNat_lt _

theorem ofNumber_toNumber (s : Scalar) (v : s.Value) : s.ofNumber (s.toNumber v) = v := by
  cases s <;> simp [toNumber, ofNumber]

theorem toNumber_ofNumber (s : Scalar) (n : Nat) :
    s.toNumber (s.ofNumber n) = n % Bytes.capacity s.width := by
  cases s <;> simp [toNumber, ofNumber, width, Bytes.capacity]

instance (s : Scalar) : DecidableEq s.Value := by
  cases s <;> exact inferInstance

end Scalar

/-- What a field of a message may be. -/
inductive WireType
  | scalar (kind : Scalar)
  | bool
  | string
  | bytes
  | vec (element : WireType)
  | opt (inner : WireType)
  deriving DecidableEq, Repr

namespace WireType

/-- The values that travel under a wire type. -/
abbrev Value : WireType → Type
  | scalar kind => kind.Value
  | bool => Bool
  | string => String
  | bytes => Bytes
  | vec element => List element.Value
  | opt inner => Option inner.Value

/-- The value a field has before anything is read into it. -/
def initial : (t : WireType) → t.Value
  | scalar kind => kind.zero
  | bool => false
  | string => ""
  | bytes => ([] : Bytes)
  | vec element => ([] : List element.Value)
  | opt inner => (none : Option inner.Value)

def decEq : (t : WireType) → DecidableEq t.Value
  | scalar kind => (inferInstance : DecidableEq kind.Value)
  | bool => (inferInstance : DecidableEq Bool)
  | string => (inferInstance : DecidableEq String)
  | bytes => (inferInstance : DecidableEq Bytes)
  | vec element =>
    have := element.decEq
    (inferInstance : DecidableEq (List element.Value))
  | opt inner =>
    have := inner.decEq
    (inferInstance : DecidableEq (Option inner.Value))

instance (t : WireType) : DecidableEq t.Value := t.decEq

end WireType

end MessageEngine
