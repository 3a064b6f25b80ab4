import Stencil.Text.Html
import Stencil.Text.JsonString
import Stencil.Text.FormEncoding
import Stencil.Text.Split
import Stencil.Unicode.Fold

/-!
# Variable forms

A variable tag prints a value in one of five forms. The bare form `{Name}`
prints it as it is; four prefixes in front of the name ask for it escaped for
HTML, as a JSON string, as a JSON string of the escaped text, or form-encoded.
The bare form is matched exactly. In the others neither the prefix nor the name
regards case, character by character.
-/

namespace Stencil.Variable

open Text

/-- In which form a tag prints a value; `mark` is how it is written and `encode` what it prints. -/
inductive Form where
  | bare
  | plaintext
  | js
  | jsPlaintext
  | urlEncoded
  deriving DecidableEq

namespace Form

/-- What stands before the name of the variable in a tag of this `Form`. -/
def mark : Form → Text
  | .bare => []
  | .plaintext => ['P', 'l', 'a', 'i', 'n', 't', 'e', 'x', 't']
  | .js => ['J', 'S']
  | .jsPlaintext => ['J', 'S', 'P', 'l', 'a', 'i', 'n', 't', 'e', 'x', 't']
  | .urlEncoded => ['U', 'R', 'L', 'E', 'n', 'c', 'o', 'd', 'e', 'd']

/-- A `value` as the form prints it. -/
def encode : Form → Text → Text
  | .bare, value => value
  | .plaintext, value => Html.escape value
  | .js, value => JsonString.quote value
  | .jsPlaintext, value => JsonString.quote (Html.escape value)
  | .urlEncoded, value => FormEncoding.encode value

/-- The forms with a `mark`, in the order in which they are filled in. -/
def prefixed : List Form := [.plaintext, .js, .jsPlaintext, .urlEncoded]

end Form

/-- What follows `mark` at the front of a text without regard to case, if the
text begins with it. -/
def stripFolded? : Text → Text → Option Text
  | [], text => some text
  | _ :: _, [] => none
  | m :: mark, c :: text => if Unicode.sameFolded m c then stripFolded? mark text else none

/-- A bare tag: `name` between braces. -/
def tag (name : Text) : Text := ['{'] ++ name ++ ['}']

/-- What follows a tag of the variable `name` in the given `form`, if the text begins with one. The
bare form is compared exactly, the others by `stripFolded?`. -/
def stripTag? (form : Form) (name text : Text) : Option Text :=
  match form with
  | .bare => stripPrefix? (tag name) text
  | _ => do
    let inside ← stripPrefix? ['{'] text
    let afterName ← stripFolded? (form.mark ++ name) inside
    stripPrefix? ['}'] afterName

/-- The text with the tags that `stripTag?` finds replaced by what the form makes of `value`. -/
def fillForm (form : Form) (name value : Text) (text : Text) : Text :=
  replaceEach (fun rest => (stripTag? form name rest).map fun after => ((), after))
    (fun _ => form.encode value) text

end Stencil.Variable
