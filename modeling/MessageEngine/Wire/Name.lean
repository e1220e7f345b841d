import MessageEngine.Wire.Type

/-!
# Names of wire types

A sequence of texts is called `vec<string>`, an optional octet `opt<u8>`.
-/

namespace MessageEngine.WireType

def name : WireType → String
  | scalar kind => kind.name
  | bool => "bool"
  | string => "string"
  | bytes => "bytes"
  | vec element => "vec<" ++ element.name ++ ">"
  | opt inner => "opt<" ++ inner.name ++ ">"

/-- The types that are not made of others. -/
def plain : List WireType := [bool, string, bytes] ++ Scalar.all.map scalar

/-- The wire type of a name, given by its characters. -/
def ofChars? : List Char → Option WireType
  | 'v' :: 'e' :: 'c' :: '<' :: rest =>
    if rest.getLast? = some '>' then (ofChars? rest.dropLast).map vec else none
  | 'o' :: 'p' :: 't' :: '<' :: rest =>
    if rest.getLast? = some '>' then (ofChars? rest.dropLast).map opt else none
  | cs => plain.find? fun t ↦ t.name.toList = cs
termination_by cs => cs.length

def ofName? (name : String) : Option WireType := ofChars? name.toList

end MessageEngine.WireType
