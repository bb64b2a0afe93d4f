import BuildScripts.Json.Token

/-!
Reading of JSON texts: the tokens are taken one by one by a machine that keeps the lists and
objects still open, so reading ends with the last token and reports the first fault.
-/

namespace BuildScripts.Json

open BuildScripts.Text

/-- A list or object that is still open, its members in reverse for a list; an object also keeps
the key that waits for its value. -/
inductive Frame
  | items (reversed : List Value)
  | entries (members : List (Value × Value)) (key : Value)

inductive Expecting
  | value
  | valueOrClose
  | key
  | keyOrClose
  | colon (key : Value)
  | next
  | finish (v : Value)

structure State where
  stack : List Frame
  expecting : Expecting

def initial : State :=
  ⟨[], .value⟩

def State.place (st : State) (v : Value) : State :=
  match st.stack with
  | [] => { st with expecting := .finish v }
  | .items vs :: fs => { st with stack := .items (v :: vs) :: fs, expecting := .next }
  | .entries es k :: fs =>
    { st with stack := .entries (Value.setKey k v es) k :: fs, expecting := .next }

def deepest : Nat := 960

def State.start (st : State) (f : Frame) (e : Expecting) : Except Fault State :=
  if deepest ≤ st.stack.length then .error .tooDeep
  else .ok { st with stack := f :: st.stack, expecting := e }

def State.startObject (st : State) : Except Fault State :=
  st.start (.entries [] .null) .keyOrClose

def State.startList (st : State) : Except Fault State :=
  st.start (.items []) .valueOrClose

def State.close (st : State) : State :=
  match st.stack with
  | .items vs :: fs => { st with stack := fs }.place (.list vs.reverse)
  | .entries es _ :: fs => { st with stack := fs }.place (.map es)
  | [] => st

def State.setPendingKey (st : State) (k : Value) : State :=
  match st.stack with
  | .entries es _ :: fs => { st with stack := .entries es k :: fs, expecting := .value }
  | _ => { st with expecting := .value }

def noValue : String := "Expecting value"
def noKey : String := "Expecting property name enclosed in double quotes"
def noColon : String := "Expecting ':' delimiter"
def noComma : String := "Expecting ',' delimiter"
def tooMuch : String := "Extra data"

def State.takeValue (st : State) (p : Placed) : Except Fault State :=
  match p.token with
  | .text codes => .ok (st.place (textValue codes))
  | .scalar v => .ok (st.place v)
  | .openObject => st.startObject
  | .openList => st.startList
  | .badText f => .error f
  | .longNumber digits => .error (.tooManyDigits digits)
  | _ => .error (.malformed noValue p.position)

def State.takeKey (st : State) (p : Placed) : Except Fault State :=
  match p.token with
  | .text codes => .ok { st with expecting := .colon (textValue codes) }
  | .badText f => .error f
  | _ => .error (.malformed noKey p.position)

def State.takeNext (st : State) (p : Placed) : Except Fault State :=
  match st.stack, p.token with
  | .items _ :: _, .closeList => .ok st.close
  | .items _ :: _, .comma => .ok { st with expecting := .value }
  | .entries _ _ :: _, .closeObject => .ok st.close
  | .entries _ _ :: _, .comma => .ok { st with expecting := .key }
  | _, _ => .error (.malformed noComma p.position)

def State.take (st : State) (p : Placed) : Except Fault State :=
  match st.expecting with
  | .value => st.takeValue p
  | .valueOrClose =>
    match p.token with
    | .closeList => .ok st.close
    | _ => st.takeValue p
  | .key => st.takeKey p
  | .keyOrClose =>
    match p.token with
    | .closeObject => .ok st.close
    | _ => st.takeKey p
  | .colon k =>
    match p.token with
    | .colon => .ok (st.setPendingKey k)
    | _ => .error (.malformed noColon p.position)
  | .next => st.takeNext p
  | .finish _ => .error (.malformed tooMuch p.position)

def State.finish (st : State) (length : Nat) : Except Fault Value :=
  match st.expecting with
  | .finish v => .ok v
  | .value => .error (.malformed noValue length)
  | .valueOrClose => .error (.malformed noValue length)
  | .key => .error (.malformed noKey length)
  | .keyOrClose => .error (.malformed noKey length)
  | .colon _ => .error (.malformed noColon length)
  | .next => .error (.malformed noComma length)

def run (length : Nat) : State → List Placed → Except Fault Value
  | st, [] => st.finish length
  | st, p :: ps => (st.take p).bind fun st => run length st ps

def readWith (halves : Halves) (s : String) : Except Fault Value :=
  run s.length initial (tokens halves s)

def read (s : String) : Except Fault Value :=
  readWith [] s

def lineAndColumn : Nat → List Char → Nat → Nat → Nat × Nat
  | 0, _, line, column => (line, column)
  | _, [], line, column => (line, column)
  | n + 1, c :: cs, line, column =>
    if c = '\n' then lineAndColumn n cs (line + 1) 1 else lineAndColumn n cs line (column + 1)

def placed (problem : String) (position : Nat) (s : String) : String :=
  let (line, column) := lineAndColumn position s.toList 1 1
  problem ++ ": line " ++ decimal line ++ " column " ++ decimal column ++ " (char " ++
    decimal position ++ ")"

end BuildScripts.Json
