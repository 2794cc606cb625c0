import WlanControl.Octets
import WlanControl.Text.Extending
import WlanControl.Text.Unprintable

namespace WlanControl.Text

/-!
# Octet strings as readable text

How an octet string without a fixed encoding is shown to a reader.

* `quoted` — text between double quotes, with what could not be read escaped;
* `octetList` — octets in hexadecimal, for strings that are no text;
* `readable` — the first form for valid UTF-8, the second for all else.
-/

/-- The lower case hexadecimal digits of a number, without leading zeros. -/
def hexDigits (n : Nat) : List Char :=
  (Nat.toDigits 16 n).map Char.toLower

/-- A character as it stands between quotes.  The characters with a short escape come first, then
those that would not be seen on their own, which are given by their code point. -/
def escaped (c : Char) : List Char :=
  if c = '\x00' then ['\\', '0']
  else if c = '\t' then ['\\', 't']
  else if c = '\r' then ['\\', 'r']
  else if c = '\n' then ['\\', 'n']
  else if c = '\\' then ['\\', '\\']
  else if c = '"' then ['\\', '"']
  else if isExtending c || isUnprintable c then
    ['\\', 'u', '\x7b'] ++ hexDigits c.toNat ++ ['\x7d']
  else [c]

/-- Text between double quotes. -/
def quoted (text : List Char) : String :=
  String.ofList ('"' :: text.flatMap escaped ++ ['"'])

/-- Octets as two hexadecimal digits each, between brackets. -/
def octetList (octets : List UInt8) : String :=
  "[" ++ ", ".intercalate (octets.map hexOctet) ++ "]"

/-- Quoted text if the octets are valid UTF-8, else the list of the octets. -/
def readable (octets : List UInt8) : String :=
  match String.fromUTF8? octets.toByteArray with
  | some text => quoted text.toList
  | none => octetList octets

/-- A quote inside of a text cannot be taken for its end. -/
theorem escaped_quote : escaped '"' = ['\\', '"'] := rfl

end WlanControl.Text
