import Tangle.Table

/-! # Collected data

The contents of the blocks that no hook handles, by language. The script keeps them in arrays, so
the name of a language is reduced to a fragment of an identifier; distinct languages may share
one. -/
namespace Tangle

def identifierFragment (language : Text) : Text :=
  language.map fun s => if s.isIdentifier then s else .char '_'

@[simp] theorem identifierFragment_length (l : Text) :
    (identifierFragment l).length = l.length := by simp [identifierFragment]

abbrev Collection := Table (List Text)

namespace Collection

def add (c : Collection) (language content : Text) : Collection :=
  let key := identifierFragment language
  c.set key ((c.get? key).getD [] ++ [content])

def contents (c : Collection) (language : Text) : List Text :=
  (c.get? (identifierFragment language)).getD []

end Collection
end Tangle
