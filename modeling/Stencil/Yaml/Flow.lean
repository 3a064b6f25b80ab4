import Stencil.Yaml.Source
import Stencil.Text.Numeral

/-!
# YAML scalars written in line

Plain scalars and scalars in single or double quotes. All three may go on over
several lines, which are folded: the blanks around a line break vanish, a single
break becomes a space, and of several the first one vanishes.
-/

namespace Stencil.Yaml

/-! ## Plain scalars -/

/-- The characters that end an entry of a flow collection or begin a new one. -/
def isFlowMark (c : Char) : Bool :=
  c == ',' || c == '[' || c == ']' || c == '{' || c == '}'

/-- The characters of a plain scalar up to a blank, a break or something that ends the scalar. In a
`flow` collection a colon right before a question mark or what `isFlowMark` gives `none`. -/
def plainRun? (flow : Bool) : Text → Option Text
  | [] => some []
  | c :: rest =>
    if isBlank c || isBreak c then some []
    else if flow && c == ':' && (rest.head?.any fun n => isFlowMark n || n == '?') then none
    else if c == ':' && endsWord rest.head? then some []
    else if flow && isFlowMark c then some []
    else (plainRun? flow rest).map (c :: ·)

/-- A plain scalar, or the rest of one after the white space `pending`: its text, the place behind
it, and whether the white space before that place holds a line break. The scalar ends before a line
that is indented less than `indent`, unless it stands in a `flow` collection. The first number
bounds its `runs` of characters. -/
def plainFrom? (flow : Bool) (indent : Int) :
    Nat → Gap → Source → Option (Text × Source × Bool)
  | 0, pending, source => some ([], source, pending.broken)
  | runs + 1, pending, source =>
    if source.atDocumentMark || source.peek == some '#' then some ([], source, pending.broken)
    else do
      let run ← plainRun? flow source.rest
      let after := source.advance run.length
      if run.isEmpty then return ([], source, pending.broken)
      if !(after.peek.any fun c => isBlank c || isBreak c) then
        return (pending.text ++ run, after, false)
      let (gap, next) ← gap? indent after
      if !flow && (next.column : Int) < indent then
        return (pending.text ++ run, next, gap.broken)
      let (more, last, broken) ← plainFrom? flow indent runs gap next
      return (pending.text ++ run ++ more, last, broken)

/-- A plain scalar by `plainFrom?`: its text, the place behind it and the white space after it, and
whether that white space holds a line break. -/
def plainScalar? (flow : Bool) (indent : Int) (source : Source) :
    Option (Text × Source × Bool) :=
  plainFrom? flow indent (source.rest.length + 1) ⟨[], false⟩ source

/-! ## Quoted scalars -/

/-- The character that a letter after a backslash stands for, where `escapeWidth?` knows none. -/
def escapedChar? : Char → Option Char
  | '0' => some '\x00'
  | 'a' => some '\x07'
  | 'b' => some '\x08'
  | 't' => some '\t'
  | '\t' => some '\t'
  | 'n' => some '\n'
  | 'v' => some '\x0b'
  | 'f' => some '\x0c'
  | 'r' => some '\r'
  | 'e' => some '\x1b'
  | ' ' => some ' '
  | '"' => some '"'
  | '/' => some '/'
  | '\\' => some '\\'
  | 'N' => some '\u0085'
  | '_' => some '\u00a0'
  | 'L' => some '\u2028'
  | 'P' => some '\u2029'
  | _ => none

/-- How many hexadecimal digits follow a letter after a backslash. -/
def escapeWidth? : Char → Option Nat
  | 'x' => some 2
  | 'u' => some 4
  | 'U' => some 8
  | _ => none

/-- The character of the code point `n`, `none` for a surrogate or a number too large. -/
def charOfCode? (n : Nat) : Option Char :=
  if n < 0xD800 ∨ (0xDFFF < n ∧ n ≤ 0x10FFFF) then some (Char.ofNat n) else none

/-- The character that the text after a backslash stands for, by `escapeWidth?` or `escapedChar?`,
and how many characters of that text it takes. -/
def escape? : Text → Option (Char × Nat)
  | [] => none
  | letter :: rest =>
    match escapeWidth? letter with
    | none => (escapedChar? letter).map fun c => (c, 1)
    | some width => do
      let digits := rest.take width
      if digits.length < width then none
      let code ← Text.readNatural? 16 digits
      return (← charOfCode? code, width + 1)

/-- What ends a run of characters inside quotes, a `quotedRun?`. -/
inductive QuotedEnd where
  | quote
  | blank
  | escapedBreak
  deriving DecidableEq

/-- The characters inside quotes up to a blank, a break, the closing quote or an escaped break, and
the place of the `QuotedEnd`. The first number bounds the `chars`. -/
def quotedRun? (single : Bool) : Nat → Source → Option (Text × QuotedEnd × Source)
  | 0, source => some ([], .blank, source)
  | chars + 1, source =>
    let go (c : Char) (width : Nat) := do
      let (more, ending, last) ← quotedRun? single chars (source.advance width)
      return (c :: more, ending, last)
    match source.rest with
    | [] => some ([], .blank, source)
    | c :: rest =>
      if isBlank c || isBreak c then some ([], .blank, source)
      else if single then
        if c != '\'' then go c 1
        else if rest.head? == some '\'' then go '\'' 2
        else some ([], .quote, source)
      else if c == '"' then some ([], .quote, source)
      else if c != '\\' then go c 1
      else if rest.head?.any isBreak then some ([], .escapedBreak, source)
      else do
        let (escaped, width) ← escape? rest
        go escaped (width + 1)

/-- The rest of a quoted scalar from a place inside the quotes, one `quotedRun?` after the other,
and the place behind the closing quote. The first number bounds the `runs`. -/
def quotedFrom? (single : Bool) : Nat → Source → Option (Text × Source)
  | 0, _ => none
  | runs + 1, source =>
    if source.atDocumentMark || source.rest.isEmpty then none
    else do
      let (run, ending, after) ← quotedRun? single (source.rest.length + 1) source
      match ending with
      | .quote => return (run, after.advance 1)
      | .blank =>
        let (gap, next) ← gap? 0 after
        let (more, last) ← quotedFrom? single runs next
        return (run ++ gap.text ++ more, last)
      | .escapedBreak =>
        let (_, next) ← (after.advance 1).takeBreak?
        if next.peek = some '"' then return (run, next.advance 1)
        let (breaks, next) ← furtherBreaks? 0 (next.rest.length + 1) next
        let (more, last) ← quotedFrom? single runs next
        return (run ++ breaks ++ more, last)

/-- A quoted scalar from its opening quote on, by `quotedFrom?`, and the place behind it. -/
def quotedScalar? (single : Bool) (source : Source) : Option (Text × Source) :=
  quotedFrom? single (source.rest.length + 1) (source.advance 1)

end Stencil.Yaml
