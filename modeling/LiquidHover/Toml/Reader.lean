/-
**Reading TOML.** A document is a row of lines: `key = value`, headers, comments and empty lines.

* `readKey?` — a key with its dotted parts.
* `readValue?` — a value within a number of levels of arrays and inline tables.
* `parse?` — a whole document; none when any line of it is wrong.
-/
import LiquidHover.Text.Utf8
import LiquidHover.Toml.Quoted
import LiquidHover.Toml.Scalar

namespace LiquidHover.Toml

/-- The number of levels of arrays and inline tables that a value may have. -/
def depthLimit : Nat := 80

/-- The number of parts that a key may have. -/
def partLimit : Nat := 80

/-- The text without leading spaces and tabs. -/
def skipSpaces (text : List Char) : List Char := text.dropWhile isSpace

/-- The text after spaces, line breaks and comments, read from inside a comment if `inComment`; none
when a comment holds a control character. -/
def skipTrivia? (inComment : Bool) : List Char → Option (List Char)
  | [] => some []
  | '\n' :: rest => skipTrivia? false rest
  | '\r' :: '\n' :: rest => skipTrivia? false rest
  | c :: rest =>
    if inComment then if isPrintable c then skipTrivia? true rest else none
    else if isSpace c then skipTrivia? false rest
    else if c = '#' then skipTrivia? true rest
    else some (c :: rest)

/-- The text after the end of a line, which only spaces and a comment may precede. -/
def endLine? (text : List Char) : Option (List Char) :=
  match skipSpaces text with
  | [] => some []
  | '#' :: comment =>
    let body := comment.takeWhile (· != '\n')
    match comment.dropWhile (· != '\n') with
    | [] => if body.all isPrintable then some [] else none
    | _ :: rest =>
      let body := if body.getLast? = some '\r' then body.dropLast else body
      if body.all isPrintable then some rest else none
  | other => afterNewline? other

/-! ### Keys -/

/-- Whether a character may stand in a key without quotes. -/
def isBare (c : Char) : Bool := c.isAlphanum || c == '_' || c == '-'

/-- One part of a key. -/
def readPart? (text : List Char) : Option (String × List Char) :=
  match text with
  | '"' :: rest => (readBasic? rest).map fun (part, after) => (String.ofList part, after)
  | '\'' :: rest => (readLiteral? rest).map fun (part, after) => (String.ofList part, after)
  | _ =>
    let part := text.takeWhile isBare
    if part.isEmpty then none else some (String.ofList part, text.dropWhile isBare)

/-- The parts of a key, in reverse in front of `read`, and the text after the key and its spaces. Each
round reads at least one character, so `fuel` is the length of the text. -/
def readKeyFrom? (read : List String) : (fuel : Nat) → List Char → Option (List String × List Char)
  | 0, _ => none
  | fuel + 1, text =>
    match readPart? (skipSpaces text) with
    | none => none
    | some (part, rest) =>
      match skipSpaces rest with
      | '.' :: more => readKeyFrom? (part :: read) fuel more
      | after => some (part :: read, after)

/-- A key: the parts before the last point, the last part, and the text after the key. -/
def readKey? (text : List Char) : Option (List String × String × List Char) :=
  match readKeyFrom? [] text.length text with
  | some (last :: path, after) =>
    if path.length < partLimit then some (path.reverse, last, after) else none
  | _ => none

/-! ### Values -/

/-- Whether a character ends a value without quotes. -/
def endsToken (c : Char) : Bool :=
  isSpace c || c == '\n' || c == '\r' || c == '#' || c == ',' || c == ']' || c == '}'

/-- A value without quotes. A date may be followed by one space and a time. -/
def readUnquoted? (text : List Char) : Option (Node × List Char) :=
  let token := text.takeWhile (!endsToken ·)
  let rest := text.dropWhile (!endsToken ·)
  let (token, rest) := match rest with
    | ' ' :: digit :: more =>
      if afterDate? token = some [] ∧ digit.isDigit then
        (token ++ ' ' :: (digit :: more).takeWhile (!endsToken ·),
          (digit :: more).dropWhile (!endsToken ·))
      else (token, rest)
    | _ => (token, rest)
  (scalar? token).map fun value => (.scalar value, rest)

/-- A value that holds no others. -/
def readScalar? (text : List Char) : Option (Node × List Char) :=
  let asString (read : Option (List Char × List Char)) : Option (Node × List Char) :=
    read.map fun (value, after) => (.scalar (.string (String.ofList value)), after)
  match text with
  | '"' :: '"' :: '"' :: rest => asString (readLong? '"' true rest)
  | '"' :: rest => asString (readBasic? rest)
  | '\'' :: '\'' :: '\'' :: rest => asString (readLong? '\'' false rest)
  | '\'' :: rest => asString (readLiteral? rest)
  | _ => readUnquoted? text

/-- The items of an array up to its closing bracket, in reverse in front of `read`. A comma may follow
the last item. -/
def readItems? (value? : List Char → Option (Node × List Char)) (read : List Node) :
    (fuel : Nat) → List Char → Option (List Node × List Char)
  | 0, _ => none
  | fuel + 1, text =>
    match skipTrivia? false text with
    | none => none
    | some (']' :: after) => some (read.reverse, after)
    | some itemText =>
      match value? itemText with
      | none => none
      | some (item, rest) =>
        match skipTrivia? false rest with
        | some (',' :: more) => readItems? value? (item :: read) fuel more
        | some (']' :: after) => some ((item :: read).reverse, after)
        | _ => none

/-- A key, an equals sign and a value, with what `skip?` skips around the equals sign: in a line of its
own a pair stands on that line, in an inline table it may go over several lines. -/
def readPair? (skip? : List Char → Option (List Char))
    (value? : List Char → Option (Node × List Char)) (text : List Char) :
    Option (List String × String × Node × List Char) := do
  let (path, key, rest) ← readKey? text
  match ← skip? rest with
  | '=' :: afterEquals =>
    let (value, after) ← value? (← skip? afterEquals)
    return (path, key, value, after)
  | _ => none

/-- The entries of an inline table up to its closing brace. A comma may follow the last entry. -/
def readEntries? (value? : List Char → Option (Node × List Char)) (table : Table) :
    (fuel : Nat) → List Char → Option (Table × List Char)
  | 0, _ => none
  | fuel + 1, text =>
    match skipTrivia? false text with
    | none => none
    | some ('}' :: after) => some (table, after)
    | some pairText =>
      match readPair? (skipTrivia? false) value? pairText with
      | none => none
      | some (path, key, value, rest) =>
        match table.insert? path key value with
        | none => none
        | some longer =>
          match skipTrivia? false rest with
          | some (',' :: more) => readEntries? value? longer fuel more
          | some ('}' :: after) => some (longer, after)
          | _ => none

/-- A value with at most `depth` levels of arrays and inline tables. -/
def readValue? : (depth : Nat) → List Char → Option (Node × List Char)
  | 0, text =>
    match text with
    | '[' :: _ | '{' :: _ => none
    | _ => readScalar? text
  | depth + 1, text =>
    match text with
    | '[' :: rest =>
      (readItems? (readValue? depth) [] text.length rest).map fun (items, after) =>
        (.array items, after)
    | '{' :: rest =>
      (readEntries? (readValue? depth) ⟨.inline, []⟩ text.length rest).map fun (table, after) =>
        (table.toNode, after)
    | _ => readScalar? text

/-! ### Documents -/

/-- A document that has been read up to some line, and the path of the header in force. -/
structure Draft where
  root : Table
  place : List String

/-- The draft after a line `key = value`. -/
def Draft.assign? (draft : Draft) (path : List String) (key : String) (value : Node) :
    Option Draft :=
  (draft.root.change? false (fun table => table.insert? path key value) draft.place).map
    fun root => { draft with root }

/-- The draft and the rest of the text after a header, when the text is what follows its opening
bracket. -/
def readHeader? (draft : Draft) (text : List Char) : Option (Draft × List Char) := do
  match text with
  | '[' :: body =>
    let (path, key, rest) ← readKey? body
    match rest with
    | ']' :: ']' :: after =>
      let root ← draft.root.pushTable? path key
      return (⟨root, path ++ [key]⟩, after)
    | _ => none
  | body =>
    let (path, key, rest) ← readKey? body
    match rest with
    | ']' :: after =>
      let root ← draft.root.openTable? path key
      return (⟨root, path ++ [key]⟩, after)
    | _ => none

/-- The draft and the rest of the text after one line with content. -/
def readLine? (draft : Draft) (text : List Char) : Option (Draft × List Char) :=
  match text with
  | '[' :: rest => readHeader? draft rest
  | _ =>
    match readPair? (some ∘ skipSpaces) (readValue? depthLimit) text with
    | some (path, key, value, rest) => (draft.assign? path key value).map (·, rest)
    | none => none

/-- The draft after all lines. Each round reads at least one character, so `fuel` is more than the
length of the text. -/
def readLines? (draft : Draft) : (fuel : Nat) → List Char → Option Draft
  | 0, _ => none
  | fuel + 1, text =>
    match skipTrivia? false text with
    | none => none
    | some [] => some draft
    | some line =>
      match readLine? draft line with
      | none => none
      | some (next, rest) =>
        match endLine? rest with
        | none => none
        | some more => readLines? next fuel more

/-- The table of a document. A byte order mark in front of it is ignored. -/
def parse? (text : List Char) : Option Table :=
  let body := Text.dropMark text
  (readLines? ⟨⟨.header, []⟩, []⟩ (body.length + 1) body).map (·.root)

end LiquidHover.Toml
