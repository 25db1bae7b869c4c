import EventOutbox.Text.Alphanumeric
import EventOutbox.Text.Lowercase
import EventOutbox.Text.Quoted
import EventOutbox.Url.DomainTable
import EventOutbox.Url.Internet
import EventOutbox.Url.Percent
import EventOutbox.Url.Problem
import EventOutbox.Url.Punycode

/-!
# Domain names

The hosts of the web.  A name may hold percent codes and letters of all scripts in either case; a
label behind `xn--` is one in Punycode.  A name whose last label is a number has to be an address.
-/

namespace EventOutbox.Url

open EventOutbox.Text

/-! ## §1 Characters -/

/-- Whether a character of ASCII cannot stand in the name of a host. -/
def isForbiddenInDomain (c : Char) : Bool :=
  c.toNat ≤ 0x20 || c.toNat = 0x7F || "%#/:<>?@[\\]^|".toList.contains c

/-- The character of ASCII that a character is a variant of. -/
def variant? (c : Char) : Option Char :=
  (variantRuns.find? fun (first, last, _) => first ≤ c.toNat && c.toNat ≤ last).map
    fun (first, _, image) => Char.ofNat (c.toNat - first + image)

/-- The characters that a character of a domain name stands for. -/
def domainChars? (c : Char) : Option (List Char) :=
  if c.toNat < 0x80 then if isForbiddenInDomain c then none else some [c.toLower]
  else if inRanges ignoredRanges c.toNat then some []
  else if inRanges refusedRanges c.toNat then none
  else some [(variant? c).getD (lowerChar c)]

/-- Whether a character stands for itself. -/
def isPlainInDomain (c : Char) : Bool :=
  domainChars? c = some [c]

/-! ## §2 Labels -/

/-- Whether invisible characters join letters in a label only where they may: behind a virama. -/
def joinsWell : (before : Option Char) → List Char → Bool
  | _, [] => true
  | before, c :: cs =>
    let joiner := c.toNat = 0x200C || c.toNat = 0x200D
    (!joiner || before.any fun b => inRanges viramaRanges b.toNat) && joinsWell (some c) cs

/-- Whether a character is a mark on the one before it. -/
def isMark (c : Char) : Bool :=
  isHidden c || inRanges spacingMarkRanges c.toNat

/-- Whether a label with its own characters is well formed: no mark stands at its beginning. -/
def isLabel (cs : List Char) : Bool :=
  !(cs.head?.any isMark) && joinsWell none cs

/-- The characters that a label in Punycode stands for, if it could not be written otherwise. -/
def punycodeLabel? (cs : List Char) : Option (List Char) :=
  if cs.getLast? = some '-' then none
  else
    (Punycode.decode? cs).filter fun label =>
      !label.isEmpty && label.all isPlainInDomain && isLabel label

/-- The characters that a label of a domain name stands for, if it is well formed. -/
def domainLabel? (cs : List Char) : Option (List Char) :=
  if "xn--".toList.isPrefixOf cs then
    if cs.all (·.toNat < 0x80) then punycodeLabel? (cs.drop 4) else none
  else if isLabel cs then some cs
  else none

/-! ## §3 Directions -/

/-- Whether a character runs from right to left. -/
def isRightToLeft (c : Char) : Bool :=
  inRanges rightToLeftRanges c.toNat

/-- Whether a character belongs to a number in Arabic text. -/
def isArabicNumber (c : Char) : Bool :=
  inRanges arabicNumberRanges c.toNat

/-- Whether a character is a digit that runs from left to right in every text. -/
def isEuropeanNumber (c : Char) : Bool :=
  inRanges europeanNumberRanges c.toNat

/-- Whether a character runs from left to right. -/
def isLeftToRight (c : Char) : Bool :=
  (isAlphabetic c || inRanges spacingMarkRanges c.toNat) &&
    !(isRightToLeft c || isArabicNumber c || isEuropeanNumber c || isHidden c)

/-- Whether a label asks for the rules of direction to hold in the whole name. -/
def runsBack (cs : List Char) : Bool :=
  cs.any fun c => isRightToLeft c || isArabicNumber c

/-- Whether the characters of a label run in one direction, from the first to the last that is no
mark.  Numbers are of one kind. -/
def keepsDirection (cs : List Char) : Bool :=
  match cs, (cs.reverse.dropWhile isHidden).head? with
  | first :: _, some last =>
    if isRightToLeft first then
      !(cs.any isLeftToRight) && !(cs.any isArabicNumber && cs.any isEuropeanNumber) &&
        (isRightToLeft last || isArabicNumber last || isEuropeanNumber last)
    else
      isLeftToRight first && !runsBack cs && (isLeftToRight last || isEuropeanNumber last)
  | first :: _, none => isRightToLeft first
  | [], _ => true

/-! ## §4 Names -/

/-- Whether the labels of a domain name are well formed, each of them and together. -/
def areDomainLabels (labels : List (List Char)) : Bool :=
  match labels.mapM domainLabel? with
  | none => false
  | some labels => !(labels.any runsBack) || labels.all keepsDirection

/-- Read the host of a URL of the web, which is not in brackets. -/
def readDomain (cs : List Char) : Except Problem (List Char) :=
  match Text.ofUtf8 (percentDecode cs) with
  | .error _ => .error .hostName
  | .ok text =>
    match text.toList.mapM domainChars? with
    | none => .error .hostName
    | some images =>
      let name := images.flatten
      if !areDomainLabels (pieces '.' name) then .error .hostName
      else if name.isEmpty then .error .emptyHost
      else if endsInNumber name && !isLooseIpv4 name then .error .ipv4
      else .ok name

end EventOutbox.Url
