import Stencil.Toml.Table

/-!
# TOML documents

A document is read line by line: a header that says to which table the lines
below it belong, a key with its value, or nothing, each with an optional comment.
Arrays and inline tables may go on over several lines. The result is the root
table; a text that breaks a rule of TOML has none.
-/

namespace Stencil.Toml

open Text

/-! ## White space and comments -/

/-- The text behind a comment, if one begins here, and else the text itself; `none` where the
comment holds a character that `isControl`. -/
def skipComment? (text : Text) : Option Text :=
  if text.head? = some '#' then
    let isEnd (c : Char) := c == '\n' || c == '\r'
    if (text.takeWhile (!isEnd ·)).any isControl then none else some (text.dropWhile (!isEnd ·))
  else some text

/-- The text behind the rest of a line that holds nothing but blanks and what `skipComment?` passes
over. -/
def endLine? (text : Text) : Option Text := do
  let rest ← skipComment? (text.dropWhile isBlank)
  if rest.isEmpty then some rest else newline? rest

/-- The text behind blanks, line breaks and what `skipComment?` passes over; the first argument
bounds the `lines`. -/
def skipLines? : Nat → Text → Option Text
  | 0, text => some text
  | lines + 1, text => do
    let rest ← skipComment? (text.dropWhile isBlank)
    match newline? rest with
    | some next => skipLines? lines next
    | none => some rest

/-! ## Keys -/

/-- A character of a key without quotes. -/
def isKeyChar (c : Char) : Bool :=
  c.isAlphanum || c == '_' || c == '-'

/-- A key without dots, and what follows it. A quoted key is read by `lineString?`, so it stays on
its line; any other key takes the characters that satisfy `isKeyChar`. -/
def simpleKey? : Text → Option (Text × Text)
  | '"' :: rest => lineString? '"' (rest.length + 1) rest
  | '\'' :: rest => lineString? '\'' (rest.length + 1) rest
  | text =>
    let key := text.takeWhile isKeyChar
    if key.isEmpty then none else some (key, text.drop key.length)

/-- The parts of a key between its dots, each read by `simpleKey?`, and what follows the key and the
blanks behind it. The first argument bounds the `parts`. -/
def dottedKey? : Nat → Text → Option (List Text × Text)
  | 0, _ => none
  | parts + 1, text => do
    let (key, rest) ← simpleKey? (text.dropWhile isBlank)
    match rest.dropWhile isBlank with
    | '.' :: rest => (dottedKey? parts rest).map fun (keys, last) => (key :: keys, last)
    | rest => some ([key], rest)

/-- The parts of a key as those before the last dot and the one behind it. -/
def splitLast? (keys : List Text) : Option (List Text × Text) :=
  keys.getLast?.map fun key => (keys.dropLast, key)

/-! ## Values -/

/-- The characters that end a word. -/
def endsWord (c : Char) : Bool :=
  [' ', '\t', '\n', '\r', ',', ']', '}', '#', '='].contains c

/-- A word at the front of a text up to a character that `endsWord`, and what follows it. A date
read by `date?` and a time with one space between them are one word. -/
def takeWord (text : Text) : Text × Text :=
  let word := text.takeWhile (!endsWord ·)
  let rest := text.drop word.length
  match date? word, rest with
  | some [], ' ' :: c :: after =>
    if c.isDigit then
      let time := (c :: after).takeWhile (!endsWord ·)
      (word ++ [' '] ++ time, (c :: after).drop time.length)
    else (word, rest)
  | _, _ => (word, rest)

/-- How many brackets and braces may be open around a value. -/
def maxDepth : Nat := 80

mutual

/-- A value at the front of a text, and what follows it: a `string?`, an array of `arrayItems?`, a
table of `inlineEntries?` or what `word?` reads. The argument `bound` bounds the recursion, `depth`
how many more brackets and braces may open. -/
def value? : Nat → Nat → Text → Option (Value × Text)
  | 0, _, _ => none
  | bound + 1, depth, text =>
    match text, depth with
    | '"' :: _, _ => (string? '"' text).map fun (content, rest) => (.scalar (.string content), rest)
    | '\'' :: _, _ => (string? '\'' text).map fun (content, rest) => (.scalar (.string content), rest)
    | '[' :: _, 0 => none
    | '{' :: _, 0 => none
    | '[' :: rest, depth + 1 =>
      (arrayItems? bound depth rest).map fun (items, last) => (.array items, last)
    | '{' :: rest, depth + 1 =>
      (inlineEntries? bound depth [] rest).map fun (entries, last) =>
        (.inlineTable entries.keys, last)
    | _, _ => do
      let (word, rest) := takeWord text
      return (.scalar (← word? word), rest)

/-- The items of an array behind its opening bracket or a comma, up to its end, each read by
`value?`. -/
def arrayItems? : Nat → Nat → Text → Option (List Value × Text)
  | 0, _, _ => none
  | bound + 1, depth, text => do
    match ← skipLines? text.length text with
    | ']' :: rest => return ([], rest)
    | start =>
      let (item, rest) ← value? bound depth start
      match ← skipLines? rest.length rest with
      | ',' :: rest =>
        let (items, last) ← arrayItems? bound depth rest
        return (item :: items, last)
      | ']' :: rest => return ([item], rest)
      | _ => none

/-- The entries of an inline table behind its opening brace or a comma, up to its end, assigned by
`Item.assign?` after the `entries` so far. -/
def inlineEntries? : Nat → Nat → Item.Entries → Text → Option (Item.Entries × Text)
  | 0, _, _, _ => none
  | bound + 1, depth, entries, text => do
    match ← skipLines? text.length text with
    | '}' :: rest => return (entries, rest)
    | start =>
      let (keys, rest) ← dottedKey? start.length start
      let (dotted, key) ← splitLast? keys
      let (value, rest) ← value? bound depth ((← stripPrefix? ['='] rest).dropWhile isBlank)
      let entries ← Item.assign? key value dotted entries
      match ← skipLines? rest.length rest with
      | ',' :: rest => inlineEntries? bound depth entries rest
      | '}' :: rest => return (entries, rest)
      | _ => none

end

/-! ## Lines -/

/-- The keys of a header behind its opening brackets, and what follows the `closing` ones. -/
def header? (closing : Text) (text : Text) : Option (List Text × Text) := do
  let (keys, rest) ← dottedKey? (text.length + 1) text
  return (keys, ← endLine? (← stripPrefix? closing rest))

/-- The lines of a document added to the table `root`. They belong to the table that `path` leads to
until a header says otherwise; `bound` bounds their number. -/
def lines? : Nat → List Text → Item.Entries → Text → Option Item.Entries
  | 0, _, _, _ => none
  | bound + 1, path, root, text =>
    match text.dropWhile isBlank with
    | [] => some root
    | '[' :: '[' :: rest => do
      let (keys, next) ← header? [']', ']'] rest
      let (parents, key) ← splitLast? keys
      lines? bound keys (← Item.within? (Item.defineRow? key) parents root) next
    | '[' :: rest => do
      let (keys, next) ← header? [']'] rest
      let (parents, key) ← splitLast? keys
      lines? bound keys (← Item.within? (Item.defineTable? key) parents root) next
    | c :: rest =>
      if c = '#' ∨ c = '\n' ∨ c = '\r' then do
        lines? bound path root (← endLine? (c :: rest))
      else do
        let (keys, rest) ← dottedKey? (rest.length + 1) (c :: rest)
        let (dotted, key) ← splitLast? keys
        let start := (← stripPrefix? ['='] rest).dropWhile isBlank
        let (value, rest) ← value? (2 * start.length + 2) maxDepth start
        lines? bound path (← Item.within? (Item.assign? key value dotted) path root)
          (← endLine? rest)

/-- The root table of a document, read by `lines?`; `none` if the text is not a valid one. A byte
order mark in front of the text is passed over. -/
def ofText? (text : Text) : Option Item.Entries :=
  let text := (stripPrefix? ['\ufeff'] text).getD text
  lines? (text.length + 1) [] [] text

end Stencil.Toml
