import MessageEngine.Text.Printable

/-!
# Describing values

Descriptions for people name a type and its fields: `Pool { name: "a", loads: [1, 2] }`.
-/

namespace MessageEngine.Text

/-- `Name { field: value, … }`. -/
def record (name : String) (fields : List (String × String)) : String :=
  name ++ " \x7b " ++ ", ".intercalate (fields.map fun (k, v) ↦ k ++ ": " ++ v) ++ " \x7d"

def list (items : List String) : String := "[" ++ ", ".intercalate items ++ "]"

def option : Option String → String
  | some v => "Some(" ++ v ++ ")"
  | none => "None"

/-- The least number of digits in the given base, without leading zeros. -/
def digits (base n : Nat) : String := String.ofList (Nat.toDigits base n)

/-- A character inside quotes. -/
def quotedChar (c : Char) : String :=
  match c with
  | '"' => "\\\""
  | '\\' => "\\\\"
  | '\n' => "\\n"
  | '\r' => "\\r"
  | '\t' => "\\t"
  | '\x00' => "\\0"
  | c => if isShown c then c.toString else "\\u\x7b" ++ digits 16 c.toNat ++ "\x7d"

/-- A text between double quotes, with what cannot be shown escaped. -/
def quoted (s : String) : String :=
  "\"" ++ String.join (s.toList.map quotedChar) ++ "\""

end MessageEngine.Text
