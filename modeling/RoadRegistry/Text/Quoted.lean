import RoadRegistry.Text.Numeral
import RoadRegistry.Text.Printable

namespace RoadRegistry.Text.Quoted

/-- What is written for one character; `quotes` are the quotation marks that need a backslash. -/
def escape (quotes : List Char) (c : Char) : List Char :=
  if c = '\x00' then ['\\', '0']
  else if c = '\t' then ['\\', 't']
  else if c = '\r' then ['\\', 'r']
  else if c = '\n' then ['\\', 'n']
  else if c = '\\' then ['\\', '\\']
  else if quotes.contains c then ['\\', c]
  else if isShown c then [c]
  else ['\\', 'u', '\x7b'] ++ hexadecimal c.toNat ++ ['\x7d']

def quoteWith (quotes : List Char) (text : String) : String :=
  String.ofList ('"' :: text.toList.flatMap (escape quotes) ++ ['"'])

def quote (text : String) : String := quoteWith ['"'] text

def quotePath (path : String) : String := quoteWith ['"', '\''] path

end RoadRegistry.Text.Quoted
