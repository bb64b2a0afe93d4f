namespace BuildScripts

abbrev Location := List String

inductive Entry
  | file (bytes : ByteArray)
  | directory
  | link (target : String)
  /-- A place that reads as an empty file, though it is none, and keeps nothing that is written to
  it. -/
  | sink

instance : Inhabited Entry := ⟨.directory⟩

def Entry.isDirectory : Entry → Bool
  | .directory => true
  | _ => false

def Entry.isFile : Entry → Bool
  | .file _ => true
  | _ => false

structure Tree where
  entries : List (Location × Entry)

namespace Tree

def empty : Tree :=
  ⟨[]⟩

def get? (t : Tree) : Location → Option Entry
  | [] => some .directory
  | l => t.entries.lookup l

def setEntry (l : Location) (e : Entry) : List (Location × Entry) → List (Location × Entry)
  | [] => [(l, e)]
  | (l', e') :: es => if l' = l then (l, e) :: es else (l', e') :: setEntry l e es

def set (t : Tree) (l : Location) (e : Entry) : Tree :=
  ⟨setEntry l e t.entries⟩

def remove (t : Tree) (l : Location) : Tree :=
  ⟨t.entries.filter fun (l', _) => !l.isSuffixOf l'⟩

def names (t : Tree) (l : Location) : List String :=
  t.entries.filterMap fun
    | (name :: parent, _) => if parent = l then some name else none
    | ([], _) => none

def sortedNames (t : Tree) (l : Location) : List String :=
  (t.names l).mergeSort fun a b => a ≤ b

def linkCount (t : Tree) : Nat :=
  t.entries.countP fun (_, e) => match e with
    | .link _ => true
    | _ => false

theorem lookup_setEntry (l l' : Location) (e : Entry) (es : List (Location × Entry)) :
    (setEntry l e es).lookup l' = if l' = l then some e else es.lookup l' := by
  induction es with
  | nil =>
    by_cases h : l' = l
    · simp [setEntry, h]
    · have : (l' == l) = false := by simpa using h
      simp [setEntry, List.lookup_cons, h, this]
  | cons x xs ih =>
    obtain ⟨k, v⟩ := x
    by_cases hk : k = l
    · subst hk
      by_cases h : l' = k
      · simp [setEntry, h]
      · have : (l' == k) = false := by simpa using h
        simp [setEntry, List.lookup_cons, h, this]
    · by_cases h : l' = k
      · subst h
        simp [setEntry, hk]
      · have : (l' == k) = false := by simpa using h
        simp only [setEntry, hk, if_false, List.lookup_cons, this]
        exact ih

theorem get?_set (t : Tree) (l l' : Location) (e : Entry) (h : l ≠ []) :
    (t.set l e).get? l' = if l' = l then some e else t.get? l' := by
  cases l' with
  | nil => simp [get?, Ne.symm h]
  | cons n p => simpa [get?, set] using lookup_setEntry l (n :: p) e t.entries

end Tree

end BuildScripts
