import BuildScripts.Decimal.Written
import BuildScripts.Text.Quoted

/-!
Values of documents: what a configuration file or a message body holds. A map keeps its entries in
the order in which their keys first came.
-/

namespace BuildScripts

structure Date where
  year : Nat
  month : Nat
  day : Nat
  deriving DecidableEq, Repr

structure Moment where
  date : Date
  hour : Nat
  minute : Nat
  second : Nat
  microsecond : Nat
  offset : Option Int
  deriving DecidableEq, Repr

def Date.marchDays (d : Date) : Nat :=
  let year := if d.month ≤ 2 then d.year - 1 else d.year
  let month := if d.month ≤ 2 then d.month + 9 else d.month - 3
  365 * year + year / 4 - year / 100 + year / 400 + (153 * month + 2) / 5 + d.day

/-- The date so many days after the first of March of the year zero. Years that begin in March have
their leap day at the end, and four hundred of them always have 146097 days. -/
def Date.ofMarchDays (n : Nat) : Date :=
  let day := n % 146097
  let year := (day - day / 1460 + day / 36524 - day / 146096) / 365
  let dayOfYear := day - (365 * year + year / 4 - year / 100)
  let month := (5 * dayOfYear + 2) / 153
  let inNextYear := 10 ≤ month
  ⟨400 * (n / 146097) + year + (if inNextYear then 1 else 0),
    if inNextYear then month - 9 else month + 3,
    dayOfYear - (153 * month + 2) / 5 + 1⟩

def daysBefore1970 : Nat := 719468

def secondsPerDay : Nat := 86400

def Moment.ofSeconds (n : Nat) : Moment :=
  let s := n % secondsPerDay
  ⟨.ofMarchDays (daysBefore1970 + n / secondsPerDay), s / 3600, s / 60 % 60, s % 60, 0, some 0⟩

example : (Moment.ofSeconds 0).date = ⟨1970, 1, 1⟩ := by decide

example : (Moment.ofSeconds 951782400).date = ⟨2000, 2, 29⟩ := by decide

def Moment.seconds (m : Moment) : Int :=
  m.date.marchDays * 86400 + m.hour * 3600 + m.minute * 60 + m.second

def Moment.isSame (m n : Moment) : Bool :=
  match m.offset, n.offset with
  | some o, some p =>
    m.seconds - 60 * o == n.seconds - 60 * p && m.microsecond == n.microsecond
  | _, _ => m == n

inductive Value
  | null
  | bool (b : Bool)
  | int (i : Int)
  | float (d : Double)
  | text (s : String)
  | unpaired (codes : List Nat)
  | bytes (bs : List UInt8)
  | date (d : Date)
  | moment (m : Moment)
  | pair (first second : Value)
  | list (items : List Value)
  | set (items : List Value)
  | map (entries : List (Value × Value))
  /-- A list or map that holds this place: from the innermost one outwards, so many are passed. -/
  | loop (passed : Nat) (isMap : Bool)
  deriving Repr, Inhabited

namespace Value

def truthy : Value → Bool
  | .null => false
  | .bool b => b
  | .int i => i != 0
  | .float d => !d.isZero
  | .text s => !s.isEmpty
  | .unpaired _ => true
  | .bytes bs => !bs.isEmpty
  | .date _ => true
  | .moment _ => true
  | .pair _ _ => true
  | .list items => !items.isEmpty
  | .set items => !items.isEmpty
  | .map entries => !entries.isEmpty
  | .loop _ _ => true

def number? : Value → Option (Int ⊕ Double)
  | .bool b => some (.inl (if b then 1 else 0))
  | .int i => some (.inl i)
  | .float d => some (.inr d)
  | _ => none

def sameNumber : Int ⊕ Double → Int ⊕ Double → Bool
  | .inl i, .inl j => i == j
  | .inr d, .inr e => d.sameValue e
  | .inl i, .inr d => d.toInt? == some i
  | .inr d, .inl i => d.toInt? == some i

def sameKey : Value → Value → Bool
  | .null, .null => true
  | .text s, .text t => s == t
  | .unpaired s, .unpaired t => s == t
  | .bytes b, .bytes c => b == c
  | .date d, .date e => d == e
  | .moment m, .moment n => m.isSame n
  | v, w =>
    match v.number?, w.number? with
    | some x, some y => sameNumber x y
    | _, _ => false

def canBeKey : Value → Bool
  | .list _ => false
  | .set _ => false
  | .map _ => false
  | .loop _ _ => false
  | _ => true

def setKey (key value : Value) : List (Value × Value) → List (Value × Value)
  | [] => [(key, value)]
  | (k, v) :: es => if k.sameKey key then (k, value) :: es else (k, v) :: setKey key value es

def lookup? (key : Value) : List (Value × Value) → Option Value
  | [] => none
  | (k, v) :: es => if k.sameKey key then some v else lookup? key es

def get? (name : String) : Value → Option Value
  | .map entries => lookup? (.text name) entries
  | _ => none

mutual

/-- A value from inside `outer`, which stands in place of every reference to it; `passed` counts
the lists and maps between. -/
def expand (outer : Value) (passed : Nat) : Value → Value
  | .loop n isMap => if n = passed then outer else .loop n isMap
  | .pair a b => .pair (expand outer (passed + 1) a) (expand outer (passed + 1) b)
  | .list items => .list (expandItems outer (passed + 1) items)
  | .set items => .set (expandItems outer (passed + 1) items)
  | .map entries => .map (expandEntries outer (passed + 1) entries)
  | v => v

def expandItems (outer : Value) (passed : Nat) : List Value → List Value
  | [] => []
  | v :: vs => expand outer passed v :: expandItems outer passed vs

def expandEntries (outer : Value) (passed : Nat) : List (Value × Value) → List (Value × Value)
  | [] => []
  | (k, v) :: es => (k, expand outer passed v) :: expandEntries outer passed es

end

mutual

def isEndless : Value → Bool
  | .loop _ _ => true
  | .pair a b => isEndless a || isEndless b
  | .list items => anyEndless items
  | .set items => anyEndless items
  | .map entries => anyEntryEndless entries
  | _ => false

def anyEndless : List Value → Bool
  | [] => false
  | v :: vs => isEndless v || anyEndless vs

def anyEntryEndless : List (Value × Value) → Bool
  | [] => false
  | (_, v) :: es => isEndless v || anyEntryEndless es

end

def member? (name : String) (v : Value) : Option Value :=
  (v.get? name).map (expand v 0)

def object (entries : List (String × Value)) : Value :=
  .map (entries.map fun (k, v) => (.text k, v))

def texts (items : List String) : Value :=
  .list (items.map .text)

def ofNat (n : Nat) : Value :=
  .int n

def ofText? : Option String → Value
  | none => .null
  | some s => .text s

end Value

end BuildScripts
