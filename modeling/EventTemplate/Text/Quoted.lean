import EventTemplate.Text.Pad
import EventTemplate.Text.Printable

/-
  The quoted form of a text, as log lines and error messages show it: between quotation marks, on
  one line, with an escape for every character that would not be seen.
-/

namespace EventTemplate.Text.Quoted

/-- The mark around a text: an apostrophe, or a double quote if the text holds an apostrophe and
no double quote. -/
def mark (cs : List Char) : Char :=
  if cs.contains '\x27' && !cs.contains '\x22' then '\x22' else '\x27'

/-- A number in hexadecimal digits, at least `width` of them. -/
def hex (width n : Nat) : List Char :=
  padLeft '0' width (Nat.toDigits 16 n)

/-- One character between the marks: the mark and the backslash take a backslash, the common
control characters have letters, and what cannot be seen is written by its code point. -/
def escape (around c : Char) : List Char :=
  if c = around ∨ c = '\\' then ['\\', c]
  else if c = '\n' then ['\\', 'n']
  else if c = '\r' then ['\\', 'r']
  else if c = '\t' then ['\\', 't']
  else if isPrintable c then [c]
  else if c.toNat < 0x100 then '\\' :: 'x' :: hex 2 c.toNat
  else if c.toNat < 0x10000 then '\\' :: 'u' :: hex 4 c.toNat
  else '\\' :: 'U' :: hex 8 c.toNat

def encode (cs : List Char) : List Char :=
  mark cs :: cs.flatMap (escape (mark cs)) ++ [mark cs]

end Quoted

/-- The quoted form of a text. -/
def quoted (s : String) : String :=
  String.ofList (Quoted.encode s.toList)

/-- A text between braces. -/
def braced (s : String) : String :=
  String.ofList ('{' :: s.toList ++ ['}'])

end EventTemplate.Text
