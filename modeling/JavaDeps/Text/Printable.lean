import JavaDeps.Unicode.Property

/-!
# Text shown in quotes

A text in messages stands in quotes, with an escape for everything that would not show as itself:
the quote, the backslash, control characters, marks that would join the character before, and
whatever is not printable.
-/

namespace JavaDeps.Text

/-- A character as it stands in a shown text. -/
def shownChar (c : Char) : List Char :=
  if c = '"' then ['\\', '"']
  else if c = '\\' then ['\\', '\\']
  else if c = '\n' then ['\\', 'n']
  else if c = '\r' then ['\\', 'r']
  else if c = '\t' then ['\\', 't']
  else if c.toNat = 0 then ['\\', '0']
  else if Unicode.isPrintable c && !Unicode.extendsGrapheme c then [c]
  else '\\' :: 'u' :: '\x7b' :: Nat.toDigits 16 c.toNat ++ ['\x7d']

/-- A text in quotes. -/
def shown (s : String) : String :=
  String.ofList ('"' :: s.toList.flatMap shownChar ++ ['"'])

end JavaDeps.Text
