/-
**Document addresses.** An address is a URI with a scheme. The grammar is the general one; no scheme
has rules of its own.

* `Uri.isValid` — whether a text is an address.
* `Uri.namesLiquidFile` — whether an address names a template, by the end of its path.
* `Uri.filePath?` — the path of a file address.
-/
import LiquidHover.Number.Decimal
import LiquidHover.Text.Split
import LiquidHover.Text.Utf8

namespace LiquidHover.Uri

open Text (hexDigit? splitAt)

/-! ### The grammar of addresses -/

/-- Whether a character stands for itself everywhere. -/
def isUnreserved (c : Char) : Bool :=
  c.isAlphanum || c == '-' || c == '.' || c == '_' || c == '~'

/-- Whether a character may part components of its own. -/
def isSubDelimiter (c : Char) : Bool := "!$&'()*+,;=".toList.contains c

/-- Whether a text is made of admitted characters and of percent signs with two hexadecimal
digits. -/
def isEncoded (admitted : Char → Bool) : List Char → Bool
  | [] => true
  | '%' :: high :: low :: rest =>
    (hexDigit? high).isSome && (hexDigit? low).isSome && isEncoded admitted rest
  | c :: rest => c != '%' && admitted c && isEncoded admitted rest

/-- Whether a character may stand in a segment of a path. -/
def isPathChar (c : Char) : Bool := isUnreserved c || isSubDelimiter c || c == ':' || c == '@'

/-- Whether a text is a path. -/
def isPath (text : List Char) : Bool := isEncoded (fun c => isPathChar c || c == '/') text

/-- Whether a text may stand after a question mark or a number sign. -/
def isTail (text : List Char) : Bool :=
  isEncoded (fun c => isPathChar c || c == '/' || c == '?') text

/-- Whether a text is a number from 0 to 255 without superfluous zeros. -/
def isOctet (text : List Char) : Bool :=
  Number.isDecimal text && text.length ≤ 3 && Number.decimalValue text ≤ 255
    && (text.length = 1 || text.head? != some '0')

/-- Whether a text is a network address of four numbers. -/
def isVersion4 (text : List Char) : Bool :=
  let octets := splitAt '.' text
  octets.length = 4 && octets.all isOctet

/-- The number of 16-bit groups of a row of groups between colons, whose last group may be written as
four numbers; none when one of them is malformed. -/
def groupCount? (text : List Char) : Option Nat :=
  if text.isEmpty then some 0
  else
    let groups := splitAt ':' text
    let isGroup (group : List Char) : Bool :=
      !group.isEmpty && group.length ≤ 4 && group.all fun c => (hexDigit? c).isSome
    if groups.all isGroup then some groups.length
    else if groups.dropLast.all isGroup && groups.getLast?.any isVersion4 then
      some (groups.length + 1)
    else none

/-- The text before and after the first two colons in a row. -/
def cutGap? : List Char → Option (List Char × List Char)
  | ':' :: ':' :: rest => some ([], rest)
  | c :: rest => (cutGap? rest).map fun (before, after) => (c :: before, after)
  | [] => none

/-- Whether a text is a network address of eight groups, of which one run may be left out. -/
def isVersion6 (text : List Char) : Bool :=
  match cutGap? text with
  | none => groupCount? text == some 8
  | some (before, after) =>
    match groupCount? before, groupCount? after with
    | some left, some right => !before.contains '.' && left + right ≤ 7
    | _, _ => false

/-- Whether a text between brackets is a network address. -/
def isBracketed (text : List Char) : Bool :=
  match text with
  | c :: rest =>
    if c = 'v' ∨ c = 'V' then
      let version := rest.takeWhile (· != '.')
      let address := (rest.dropWhile (· != '.')).tail
      !version.isEmpty && version.all (fun d => (hexDigit? d).isSome) && !address.isEmpty
        && address.all fun d => isUnreserved d || isSubDelimiter d || d == ':'
    else isVersion6 text
  | [] => false

/-- Whether a text is a host, perhaps with a port. -/
def isHostPort (text : List Char) : Bool :=
  match text with
  | '[' :: rest =>
    let port := (rest.dropWhile (· != ']')).tail
    rest.contains ']' && isBracketed (rest.takeWhile (· != ']'))
      && (port.isEmpty || (port.head? == some ':' && port.tail.all Char.isDigit))
  | _ =>
    let port := (text.dropWhile (· != ':')).tail
    isEncoded (fun c => isUnreserved c || isSubDelimiter c) (text.takeWhile (· != ':'))
      && port.all Char.isDigit

/-- Whether a text is an authority: a host, perhaps after a user and an at sign. -/
def isAuthority (text : List Char) : Bool :=
  if text.contains '@' then
    let host := (text.reverse.takeWhile (· != '@')).reverse
    let user := (text.reverse.dropWhile (· != '@')).tail.reverse
    isEncoded (fun c => isUnreserved c || isSubDelimiter c || c == ':') user && isHostPort host
  else isHostPort text

/-- Whether a text is what stands between the scheme and the query of an address. -/
def isHierarchy (text : List Char) : Bool :=
  match text with
  | '/' :: '/' :: rest =>
    isAuthority (rest.takeWhile (· != '/')) && isPath (rest.dropWhile (· != '/'))
  | _ => isPath text

/-- Whether a text is a scheme. -/
def isScheme (text : List Char) : Bool :=
  text.head?.any Char.isAlpha
    && text.all fun c => c.isAlphanum || c == '+' || c == '-' || c == '.'

/-- Whether a text is the address of a document. -/
def isValid (text : String) : Bool :=
  let scheme := text.toList.takeWhile (· != ':')
  let rest := text.toList.dropWhile (· != ':')
  let body := rest.tail
  let main := body.takeWhile (· != '#')
  let fragment := (body.dropWhile (· != '#')).tail
  let query := (main.dropWhile (· != '?')).tail
  !rest.isEmpty && isScheme scheme && isHierarchy (main.takeWhile (· != '?')) && isTail query
    && isTail fragment

/-! ### What an address names -/

/-- The text after the last point, when there is one. -/
def extension? (text : List Char) : Option (List Char) :=
  if text.contains '.' then some (text.reverse.takeWhile (· != '.')).reverse else none

/-- Whether an address names a template: without query and fragment it ends in `.liquid`, in capital
or small letters. -/
def namesLiquidFile (uri : String) : Bool :=
  let path := uri.toList.takeWhile fun c => c != '?' && c != '#'
  (extension? path).any fun ending => ending.map Char.toLower == "liquid".toList

/-- The bytes of a text in which percent signs with two hexadecimal digits stand for bytes. -/
def percentDecode : List UInt8 → List UInt8
  | [] => []
  | byte :: rest =>
    match rest with
    | high :: low :: more =>
      match byte == 0x25, hexDigit? (Char.ofNat high.toNat), hexDigit? (Char.ofNat low.toNat) with
      | true, some h, some l => UInt8.ofNat (h * 16 + l) :: percentDecode more
      | _, _, _ => byte :: percentDecode (high :: low :: more)
    | _ => byte :: rest

/-- The path of a file address; other addresses have none. -/
def filePath? (uri : String) : Option String :=
  match uri.toList with
  | 'f' :: 'i' :: 'l' :: 'e' :: ':' :: '/' :: '/' :: path =>
    some (String.ofList (Text.decodeLossy (percentDecode (Text.encode path))))
  | _ => none

end LiquidHover.Uri
