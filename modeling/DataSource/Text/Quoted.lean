import DataSource.Text.Digits
import DataSource.Text.Printable

/-!
# Quoted texts

The form in which a text is shown inside a message: between quotes, with a backslash escape for the
backslash, for the quote itself and for every character that is not printable. The quote is the
apostrophe, unless the text has an apostrophe and no double quote.
-/

namespace DataSource.Text

def quoteOf (text : List Char) : Char :=
  if text.contains '\'' && !text.contains '"' then '"' else '\''

def quoteChar (quote c : Char) : List Char :=
  if c = quote ∨ c = '\\' then ['\\', c]
  else if c = '\n' then ['\\', 'n']
  else if c = '\r' then ['\\', 'r']
  else if c = '\t' then ['\\', 't']
  else if isPrintable c then [c]
  else if c.toNat < 0x100 then '\\' :: 'x' :: digits 16 2 c.toNat
  else if c.toNat < 0x10000 then '\\' :: 'u' :: digits 16 4 c.toNat
  else '\\' :: 'U' :: digits 16 8 c.toNat

def quoted (text : String) : String :=
  let quote := quoteOf text.toList
  String.ofList ([quote] ++ text.toList.flatMap (quoteChar quote) ++ [quote])

end DataSource.Text
