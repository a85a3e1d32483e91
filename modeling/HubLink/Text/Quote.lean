import HubLink.Text.Printable
import HubLink.Text.GraphemeExtend
/-!
Quoted text as a debug view shows it: the text between double quotes, with the quote, the
backslash, NUL, tab, carriage return and line feed written as backslash escapes, and every
character that is not printable or that extends a grapheme written as `\u` followed by its
code point in lowercase hex between braces. Everything else stands as itself.
-/
namespace HubLink.Text

/-- The lowercase hexadecimal digits of a number, without leading zeros. -/
def hexDigits (n : Nat) : String :=
  String.ofList (Nat.toDigits 16 n)

/-- How one character is written inside a quoted text. -/
def escapeChar (c : Char) : String :=
  match c.toNat with
  | 0 => "\\0"
  | 9 => "\\t"
  | 10 => "\\n"
  | 13 => "\\r"
  | 34 => "\\\""
  | 92 => "\\\\"
  | n =>
    if isGraphemeExtend c || !isPrintable c then "\\u\x7b" ++ hexDigits n ++ "\x7d"
    else c.toString

/-- A text between double quotes, escaped character by character. -/
def quote (s : String) : String :=
  "\"" ++ String.join (s.toList.map escapeChar) ++ "\""

end HubLink.Text
