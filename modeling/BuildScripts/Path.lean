/-!
Paths as texts name them: an anchor and the parts between slashes, without empty parts and single
dots. Parts that go up are kept, for what they mean depends on the links on the way.
-/

namespace BuildScripts

/-- Exactly two slashes in front are an anchor of their own. -/
inductive Anchor
  | relative
  | root
  | doubleRoot
  deriving DecidableEq, Repr

structure Path where
  anchor : Anchor
  parts : List String
  deriving DecidableEq, Repr

namespace Path

def anchorOf : List Char → Anchor
  | '/' :: '/' :: '/' :: _ => .root
  | '/' :: '/' :: _ => .doubleRoot
  | '/' :: _ => .root
  | _ => .relative

def atSlashes : List Char → List (List Char)
  | [] => [[]]
  | c :: cs =>
    match atSlashes cs with
    | [] => [[]]
    | p :: ps => if c = '/' then [] :: p :: ps else (c :: p) :: ps

def pieces (s : String) : List String :=
  (atSlashes s.toList).map String.ofList

def ofText (s : String) : Path :=
  ⟨anchorOf s.toList, (pieces s).filter fun p => p ≠ "" ∧ p ≠ "."⟩

def here : Path :=
  ⟨.relative, []⟩

def absolute (parts : List String) : Path :=
  ⟨.root, parts⟩

def anchorText : Anchor → String
  | .relative => ""
  | .root => "/"
  | .doubleRoot => "//"

def toText (p : Path) : String :=
  match p.anchor, p.parts with
  | .relative, [] => "."
  | a, parts => anchorText a ++ String.intercalate "/" parts

def isAbsolute (p : Path) : Bool :=
  p.anchor != .relative

def join (p q : Path) : Path :=
  match q.anchor with
  | .relative => ⟨p.anchor, p.parts ++ q.parts⟩
  | _ => q

def child (p : Path) (name : String) : Path :=
  ⟨p.anchor, p.parts ++ [name]⟩

def parent (p : Path) : Path :=
  ⟨p.anchor, p.parts.dropLast⟩

def name (p : Path) : String :=
  p.parts.getLast?.getD ""

def isBelow (p root : Path) : Bool :=
  p.anchor == root.anchor && root.parts.isPrefixOf p.parts

def hasNull (p : Path) : Bool :=
  p.parts.any (·.toList.contains '\x00')

end Path

end BuildScripts
