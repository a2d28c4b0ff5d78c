import CanaryRelease.Text.Hex
import CanaryRelease.Text.Printable

/-!
# Quoted text

How a text is shown inside a message: between single quotes, or between double quotes if it holds
a single quote and no double one. The delimiter, the backslash and characters without a visible form
are escaped, the latter by the shortest of `\xNN`, `\uNNNN` and `\UNNNNNNNN`.
-/

namespace CanaryRelease.Text

/-- The quote that delimits a text. -/
def delimiter (cs : List Char) : Char :=
  if cs.contains '\'' && !cs.contains '"' then '"' else '\''

/-- One character of a quoted text. -/
def quotedChar (quote c : Char) : List Char :=
  if c = quote || c = '\\' then ['\\', c]
  else if c = '\n' then ['\\', 'n']
  else if c = '\r' then ['\\', 'r']
  else if c = '\t' then ['\\', 't']
  else if isPrintable c then [c]
  else if c.toNat < 0x100 then '\\' :: 'x' :: hex 2 c.toNat
  else if c.toNat < 0x10000 then '\\' :: 'u' :: hex 4 c.toNat
  else '\\' :: 'U' :: hex 8 c.toNat

/-- A text as a message shows it. -/
def quoted (s : String) : String :=
  let quote := delimiter s.toList
  String.ofList (quote :: s.toList.flatMap (quotedChar quote) ++ [quote])

end CanaryRelease.Text
