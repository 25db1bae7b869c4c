import EventOutbox.Text.Blank
import EventOutbox.Text.Hexadecimal
import EventOutbox.Text.Utf8

/-!
# Percent codes

In the parts of a URL a byte may be written as a percent sign and two hexadecimal digits.  A
percent sign in front of anything else stands for itself.  Pairs of names and values are read from
a query by the same rule, with a plus sign for a blank.
-/

namespace EventOutbox.Url

/-- The bytes that a part of a URL stands for. -/
def percentDecode : List Char → List UInt8
  | [] => []
  | '%' :: a :: b :: cs =>
    match Text.hexValue? a, Text.hexValue? b with
    | some x, some y => UInt8.ofNat (16 * x.val + y.val) :: percentDecode cs
    | _, _ => 0x25 :: percentDecode (a :: b :: cs)
  | c :: cs => String.utf8EncodeChar c ++ percentDecode cs

/-- A part of a URL as text, when it is UTF-8. -/
def decodeText (cs : List Char) : Except Text.Utf8Problem String :=
  Text.ofUtf8 (percentDecode cs)

/-- A name or a value of a query as text. -/
def decodeField (cs : List Char) : String :=
  Text.ofUtf8Lossy (percentDecode (cs.map fun c => if c = '+' then ' ' else c))

/-- The names and values in a query, in order; a name without an equals sign has no text as its
value. -/
def queryPairs (query : List Char) : List (String × String) :=
  ((Text.pieces '&' query).filter fun p => !p.isEmpty).map fun p =>
    let (name, rest) := p.span (· != '=')
    (decodeField name, decodeField (rest.drop 1))

end EventOutbox.Url
