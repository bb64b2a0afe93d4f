namespace BuildScripts.Text

def unifyEnds : List Char → List Char
  | [] => []
  | '\r' :: '\n' :: cs => '\n' :: unifyEnds cs
  | '\r' :: cs => '\n' :: unifyEnds cs
  | c :: cs => c :: unifyEnds cs

def unifyLineEnds (s : String) : String :=
  String.ofList (unifyEnds s.toList)

def splitLines : List Char → List (List Char)
  | [] => []
  | '\n' :: cs => [] :: splitLines cs
  | c :: cs =>
    match splitLines cs with
    | [] => [[c]]
    | l :: ls => (c :: l) :: ls

def dropReturn : List Char → List Char
  | [] => []
  | ['\r'] => []
  | c :: cs => c :: dropReturn cs

/-- The lines of a text, each without its line feed and without one carriage return before it. -/
def physicalLines (text : String) : List String :=
  (splitLines text.toList).map fun l => String.ofList (dropReturn l)

@[simp] theorem physicalLines_empty : physicalLines "" = [] := by
  simp [physicalLines, splitLines]

theorem splitLines_line_feed (cs : List Char) : splitLines ('\n' :: cs) = [] :: splitLines cs := by
  simp [splitLines]

end BuildScripts.Text
