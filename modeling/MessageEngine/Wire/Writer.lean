import MessageEngine.Wire.Encode

/-!
# Writers

A writer holds what has been written, the last octet first, so that what
comes next is put behind it at no cost.  A value is written part by part: a
sequence as its number of elements and then each of them, an optional value
as its tag and then what it holds.
-/

namespace MessageEngine

/-- What has been written, the last octet first. -/
structure Writer where
  reversed : Bytes := []
  deriving DecidableEq, Repr

namespace Writer

/-- What has been written, in order. -/
def content (w : Writer) : Bytes := w.reversed.reverse

def ofBytes (b : Bytes) : Writer := ⟨b.reverse⟩

/-- Put octets behind what was written, as they are. -/
def put (w : Writer) (b : Bytes) : Writer := ⟨b.reverseAux w.reversed⟩

@[simp] theorem content_ofBytes (b : Bytes) : (ofBytes b).content = b := b.reverse_reverse

@[simp] theorem content_put (w : Writer) (b : Bytes) : (w.put b).content = w.content ++ b := by
  rw [content, put, List.reverseAux_eq, List.reverse_append, List.reverse_reverse, content]

/-- A length or count in front of what it measures. -/
def count (n : Nat) (w : Writer) : Writer := w.put (Bytes.le 4 n)

/-- A truth value or an option tag. -/
def bool (v : Bool) (w : Writer) : Writer := w.put [if v then 1 else 0]

/-- A blob behind its length. -/
def blob (b : Bytes) (w : Writer) : Writer := (w.count b.length).put b

/-- A value of a wire type. -/
def value : (t : WireType) → t.Value → Writer → Writer
  | .scalar kind, v, w => w.put (Bytes.le kind.width (kind.toNumber v))
  | .bool, (v : Bool), w => w.bool v
  | .string, (v : String), w => w.blob (utf8 v)
  | .bytes, (v : Bytes), w => w.blob v
  | .vec element, (vs : List element.Value), w =>
    vs.foldl (fun w v ↦ w.value element v) (w.count vs.length)
  | .opt _, none, w => w.bool false
  | .opt inner, some v, w => (w.bool true).value inner v

/-- Values of any types, one behind the other. -/
def values (vs : List (Sigma WireType.Value)) (w : Writer) : Writer :=
  vs.foldl (fun w v ↦ w.value v.1 v.2) w

/-- Four octets from `position` on replaced by a number; `none` if they are not all there. -/
def patch? (w : Writer) (position : Nat) (value : UInt32) : Option Writer :=
  (w.content.patch? position value).map ofBytes

end Writer

end MessageEngine
