import MessageEngine.Compression.Deflate
import MessageEngine.Compression.Inflate
import MessageEngine.Transform

/-!
# The compressing transform

Deflated data stands between a header of two octets and a checksum.  On the
way in no more is unpacked than a limit allows: one octet beyond the limit
is asked for, and if it comes the payload is refused.  That octet has to be
counted in 64 bits, so under the greatest limit nothing is unpacked at all.

How data is packed and unpacked is a parameter of the transform, a `Packer`;
`Zlib.packer` is the one that is used.
-/

namespace MessageEngine.Compression

structure Packer where
  pack : Bytes → Bytes
  /-- Unpack data, but no more octets than are asked for. -/
  unpack : (asked : Nat) → Bytes → Except Flaw Bytes

namespace Packer

def flawMessage : Flaw → String
  | .incomplete => "zlib decompress: incomplete deflate stream"
  | .corrupt => "zlib decompress: corrupt deflate stream"

/-- Unpack as many octets as a limit allows and one more. -/
def decode (z : Packer) (limit : Nat) (data : Bytes) : Except DecodeFailure Bytes :=
  let asked := limit + 1
  if UInt64.size ≤ asked then .error .panicked
  else
    match z.unpack asked data with
    | .ok output =>
      if output.holds asked then .error (.refused (.payloadTooLarge output.length limit))
      else .ok output
    | .error flaw => .error (.refused (.transform (flawMessage flaw)))

end Packer

/-- The checksum of unpacked data: two sums modulo 65521. -/
def adler32 (data : Bytes) : Nat :=
  let (a, b) := data.foldl (fun (a, b) x ↦
    let a := (a + x.toNat) % 65521
    (a, (b + a) % 65521)) (1, 0)
  65536 * b + a

/-- A number in four octets, the most significant first. -/
def bigEndian (v : Nat) : Bytes := (Bytes.le 4 v).reverse

namespace Zlib

/-- The header of what is written here: deflated with little effort. -/
def header : Bytes := [0x78, 0x01]

def encode (data : Bytes) : Bytes :=
  header ++ deflate header.length data ++ bigEndian (adler32 data)

/-- The header names the method, a window of 32 KiB at most and no dictionary, and is a
multiple of 31. -/
def headerIsSound (method flags : UInt8) : Bool :=
  method.toNat % 16 == 8 && method.toNat / 16 ≤ 7 && flags.toNat / 32 % 2 == 0 &&
    (256 * method.toNat + flags.toNat) % 31 == 0

/-- What unpacking came to. -/
inductive Unpacked
  | complete (data : Bytes)
  /-- There is more than was asked for. -/
  | filled (data : Bytes)
  /-- The data ended early, when these octets had been taken. -/
  | incomplete (taken : Bytes)
  | corrupt

/-- Compare the checksum behind the last block. -/
def verify (output : Bytes) (rest : BitSource) : Unpacked :=
  match rest.aligned.take 4 with
  | .error _ => .incomplete output
  | .ok (sum, _) => if sum = bigEndian (adler32 output) then .complete output else .corrupt

/-- Unpack until there are at least `asked` octets. -/
def unpackBeyond (asked : Nat) (data : Bytes) : Unpacked :=
  match (BitSource.ofBytes data).take 2 with
  | .ok ([method, flags], source) =>
    if headerIsSound method flags then
      match inflate asked data.length source with
      | .complete output rest => verify output.toList rest
      | .filled output => .filled output.toList
      | .incomplete taken => .incomplete taken.toList
      | .corrupt => .corrupt
    else .corrupt
  | _ => .incomplete []

/-- Data that ends early counts for as much as was taken of it. -/
def unpack (asked : Nat) (data : Bytes) : Except Flaw Bytes :=
  match unpackBeyond asked data with
  | .complete output | .filled output => .ok (output.take asked)
  | .incomplete taken => if taken.holds asked then .ok (taken.take asked) else .error .incomplete
  | .corrupt => .error .corrupt

def packer : Packer := ⟨encode, unpack⟩

end Zlib

end Compression

/-- How much a payload may unpack to unless a limit is set. -/
def Transform.defaultLimit : Nat := 16777216

def Transform.zlib (limit : Nat := defaultLimit)
    (z : Compression.Packer := Compression.Zlib.packer) : Transform where
  name := "zlib"
  encode _ data := .ok (z.pack data)
  decode := z.decode limit

end MessageEngine
