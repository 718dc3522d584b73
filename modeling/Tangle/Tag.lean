import Tangle.Text.Blank

/-! # Tags

The tag of a block names its language and may ask for a command: `lang |code` runs `code` on the
block when the script runs, `lang !code` runs it while the document is compiled. Any other words
are kept. -/
namespace Tangle

inductive Request where
  | plain (words : List Text)
  | run (code : Text)
  | compile (code : Text)
deriving DecidableEq, Repr

structure Tag where
  language : Text
  request : Request := .plain []
deriving DecidableEq, Repr

namespace Request

def words : Request → List Text
  | plain ws => ws
  | _ => []

def code : Request → Text
  | plain _ => []
  | run c | compile c => c

def ofText : Text → Request
  | [] => plain []
  | c :: rest =>
    if c.is '|' then run rest
    else if c.is '!' then compile rest
    else plain (Text.words (c :: rest))

end Request

namespace Tag

def words (t : Tag) : List Text := t.request.words
def code (t : Tag) : Text := t.request.code

/-- Only the second token is looked at for a marker; what follows the marker is kept as it
stands. -/
def ofText (raw : Text) : Tag :=
  let t := raw.trim
  { language := t.takeWhile (!·.isBlank)
    request := .ofText (Text.trimStartBy Symbol.isBlank (t.dropWhile (!·.isBlank))) }

end Tag
end Tangle
