/-!
What is asked of texts in many places: classes of characters given by the code points at which
membership starts or stops, white space, and how texts begin and end.
-/

namespace BuildScripts.Text

/-- Below the first edge nothing is a member, and each edge passed changes membership. -/
def inEdges : List Nat → Nat → Bool
  | [], _ => false
  | e :: es, n => if n < e then false else !inEdges es n

def whiteEdges : List Nat := [
    9, 0xe, 0x20, 0x21, 0x85, 0x86, 0xa0, 0xa1, 0x1680, 0x1681, 0x2000, 0x200b, 0x2028, 0x202a,
    0x202f, 0x2030, 0x205f, 0x2060, 0x3000, 0x3001]

def isWhite (c : Char) : Bool :=
  inEdges whiteEdges c.toNat

def isBlank (c : Char) : Bool :=
  isWhite c || (0x1c ≤ c.toNat && c.toNat < 0x20)

def dropEnd (p : Char → Bool) : List Char → List Char
  | [] => []
  | c :: cs =>
    match dropEnd p cs with
    | [] => if p c then [] else [c]
    | rest => c :: rest

def trim (p : Char → Bool) (cs : List Char) : List Char :=
  dropEnd p (cs.dropWhile p)

def stripChars (cs : List Char) : List Char :=
  trim isBlank cs

def strip (s : String) : String :=
  String.ofList (stripChars s.toList)

def beginsWith (start s : String) : Bool :=
  start.toList.isPrefixOf s.toList

def endsWith (finish s : String) : Bool :=
  finish.toList.isSuffixOf s.toList

def withoutEnd (c : Char) (s : String) : String :=
  String.ofList (s.toList.reverse.dropWhile (· == c)).reverse

theorem beginsWith_iff (start s : String) :
    beginsWith start s = true ↔ ∃ rest, s.toList = start.toList ++ rest := by
  simp only [beginsWith, List.isPrefixOf_iff_prefix, List.IsPrefix]
  exact ⟨fun ⟨r, h⟩ => ⟨r, h.symm⟩, fun ⟨r, h⟩ => ⟨r, h.symm⟩⟩

end BuildScripts.Text
