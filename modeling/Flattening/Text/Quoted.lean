import Flattening.Text.Printable

/-!
# Quoted text

A text inside a message stands in double quotes.  Quotes and backslashes take a backslash,
the usual controls have a letter, and other characters without a picture are shown by their
number in hexadecimal.
-/

namespace Flattening.Text

/-- lower-case hexadecimal digits, without leading zeros -/
def hex (n : Nat) : String := String.ofList (Nat.toDigits 16 n)

def escape (c : Char) : String :=
  match c with
  | '"' => "\\\""
  | '\\' => "\\\\"
  | '\n' => "\\n"
  | '\t' => "\\t"
  | '\r' => "\\r"
  | '\x00' => "\\0"
  | c => if isEscaped c then "\\u\x7b" ++ hex c.toNat ++ "\x7d" else c.toString

def quoted (s : String) : String := "\"" ++ String.join (s.toList.map escape) ++ "\""

theorem escape_quote : escape '"' = "\\\"" := rfl
theorem escape_backslash : escape '\\' = "\\\\" := rfl

end Flattening.Text
