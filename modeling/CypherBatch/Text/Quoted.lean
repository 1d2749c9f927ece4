import CypherBatch.Text.Hex
import CypherBatch.Text.Printable

/-!
# Quoted text

Messages show text between quotes: single quotes, or double quotes if the text
holds a single quote and no double one.  The quote, the backslash and the
characters that cannot be printed are escaped.
-/

namespace CypherBatch
namespace Text

/-- The quote to put around a text. -/
def quoteFor (cs : List Char) : Char :=
  if cs.contains '\'' && !cs.contains '"' then '"' else '\''

/-- One character as it stands between the given quotes. -/
def escaped (quote : Char) (c : Char) : List Char :=
  if c = quote ∨ c = '\\' then ['\\', c]
  else if c = '\n' then ['\\', 'n']
  else if c = '\r' then ['\\', 'r']
  else if c = '\t' then ['\\', 't']
  else if isPrintable c then [c]
  else if c.toNat < 0x100 then '\\' :: 'x' :: hexDigits 2 c.toNat
  else if c.toNat < 0x10000 then '\\' :: 'u' :: hexDigits 4 c.toNat
  else '\\' :: 'U' :: hexDigits 8 c.toNat

def quoted (s : String) : String :=
  let cs := s.toList
  let quote := quoteFor cs
  String.ofList (quote :: cs.flatMap (escaped quote) ++ [quote])

/-- The choice of quote, and a character that cannot be printed. -/
example :
    quoted "it's" = "\"it's\"" ∧ quoted "a\u200bb" = "'a\\u200bb'" := by
  decide +kernel

end Text
end CypherBatch
