import BuildScripts.Form
import BuildScripts.Text.Lines
import BuildScripts.Text.Utf8

/-!
Scripts as clients hand them over. The content is a text of JSON, in which halves of surrogate pairs
may stand alone; such a script is analysed like any other, but cannot be stored.
-/

namespace BuildScripts.Server

open BuildScripts.Text

structure Submission where
  fileName : String
  content : List Nat
  deriving DecidableEq, Repr

namespace Submission

open Form

def form : Form Submission := fun v =>
  Submission.mk <$> member "file_name" filledText v <*> member "content" codes v

/-- The text that is analysed. No file and no module has a name with a null character, so a token with
half of a pair in it leads nowhere. -/
def text (u : Submission) : String :=
  textOfCodes '\x00' u.content

def canShowLine (u : Submission) (number : Nat) : Bool :=
  !((u.content.splitOn '\n'.toNat)[number - 1]?).any (·.any isHalf)

end Submission

end BuildScripts.Server
