/-!
# String literals

How a string is shown as a quoted literal: in single quotes, or in double quotes if it holds single
quotes and no double ones. Backslashes, the chosen quote, newlines, tabs, carriage returns and null
characters are escaped, all else stands as it is.
-/

namespace SaltConventions.Text.Literal

/-- The quote that a literal of this text is written with. -/
def quoteFor (cs : List Char) : Char :=
  if cs.contains '\'' && !cs.contains '"' then '"' else '\''

/-- One character inside a literal written with `quote`. -/
def escapeChar (quote c : Char) : List Char :=
  if c = '\\' then ['\\', '\\']
  else if c = '\n' then ['\\', 'n']
  else if c = '\t' then ['\\', 't']
  else if c = '\r' then ['\\', 'r']
  else if c.toNat = 0 then ['\\', 'x', '0', '0']
  else if c = quote then ['\\', c]
  else [c]

def encode (cs : List Char) : List Char :=
  let quote := quoteFor cs
  [quote] ++ cs.flatMap (escapeChar quote) ++ [quote]

def ofString (s : String) : String :=
  String.ofList (encode s.toList)

end SaltConventions.Text.Literal
