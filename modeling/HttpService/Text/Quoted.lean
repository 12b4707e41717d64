import HttpService.Text.Glyphless

/-!
# Quoted text

A text between double quotes, as diagnostics show it: quotes, backslashes and the common control
characters have short escapes, and any other character without a glyph is its code point in braces.
-/

namespace HttpService.Text

/-- Lower-case hexadecimal without leading zeros. -/
def hex (n : Nat) : String :=
  String.ofList (Nat.toDigits 16 n)

/-- One character as it stands inside a quoted text. -/
def quoteChar (c : Char) : List Char :=
  if c == '"' then ['\\', '"']
  else if c == '\\' then ['\\', '\\']
  else if c == '\n' then ['\\', 'n']
  else if c == '\r' then ['\\', 'r']
  else if c == '\t' then ['\\', 't']
  else if c.toNat == 0 then ['\\', '0']
  else if glyphless c then
    '\\' :: 'u' :: '\x7b' :: Nat.toDigits 16 c.toNat ++ ['\x7d']
  else [c]

def quoted (s : String) : String :=
  String.ofList ('"' :: s.toList.flatMap quoteChar ++ ['"'])

/-- How diagnostics show a text that may be absent. -/
def quotedOption : Option String → String
  | none => "None"
  | some s => "Some(" ++ quoted s ++ ")"

/-- How diagnostics show a list whose entries are already shown. -/
def listed (shown : List String) : String :=
  "[" ++ ", ".intercalate shown ++ "]"

end HttpService.Text
