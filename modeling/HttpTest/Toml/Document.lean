import HttpTest.Toml.Reader
import HttpTest.Toml.Shape
import HttpTest.Text.Basic

/-!
# Documents as data

Reading a document and taking it for data of a given shape, and the report of a document that does
not have it: the place in the text, the line with the wrong part underlined, and what is wrong.
-/

namespace HttpTest.Toml

inductive DocumentError where
  /-- It is not TOML. -/
  | malformed
  | shape (error : ShapeError)

def decode {α : Type} (decoder : Decoder α) (text : String) : Except DocumentError α :=
  match read? text.toList with
  | none => .error .malformed
  | some document => (decoder document).mapError .shape

def byteCount (text : List Char) : Nat := (String.ofList text).utf8ByteSize

/-- The report of something wrong in a stretch of a text: where it is, counted from one, and the
line with the stretch underlined as far as it is on that line. -/
def report (text : List Char) (span : Span) (message : String) : String :=
  let before := text.take (text.length - span.start)
  let stretch := (text.take (text.length - span.stop)).drop before.length
  let line := before.count '\n'
  let column := (before.reverse.takeWhile (· ≠ '\n')).length
  let content := (Text.splitAtChar '\n' text)[line]?.getD []
  let number := toString (line + 1)
  let marks := max 1 (min (byteCount stretch) (byteCount content - column))
  let margin := List.replicate (number.length + 1) ' '
  "TOML parse error at line " ++ number ++ ", column " ++ toString (column + 1) ++ "\n"
    ++ String.ofList margin ++ "|\n"
    ++ number ++ " | " ++ String.ofList content ++ "\n"
    ++ String.ofList (margin ++ '|' :: List.replicate (column + 1) ' ' ++ List.replicate marks '^')
    ++ "\n" ++ message ++ "\n"

def DocumentError.report (text : String) : DocumentError → String
  | .malformed => "TOML parse error\n"
  | .shape error =>
    match error.span with
    | some span => Toml.report text.toList span error.fault.message
    | none => error.fault.message ++ "\n"

end HttpTest.Toml
