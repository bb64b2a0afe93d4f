import BuildScripts.Decimal.Whole
import BuildScripts.Fault
import BuildScripts.Text.Utf8

/-!
Reading of message bodies into records. A reader goes through all members before it gives up, so
that its complaints are those of every member, in the order of the members. Scalars are read
generously: numbers may be written as texts, and flags as numbers or words.
-/

namespace BuildScripts

open BuildScripts.Text

inductive Checked (α : Type)
  | good (a : α)
  | bad (complaints : List Complaint)
  deriving Repr

namespace Checked

def map {α β : Type} (f : α → β) : Checked α → Checked β
  | .good a => .good (f a)
  | .bad cs => .bad cs

/-- The complaints of both parts are kept, in order. -/
def apply {α β : Type} : Checked (α → β) → Checked α → Checked β
  | .good f, x => x.map f
  | .bad cs, .good _ => .bad cs
  | .bad cs, .bad ds => .bad (cs ++ ds)

instance : Applicative Checked where
  pure := .good
  seq f x := f.apply (x ())
  map := map

def complain {α : Type} (problem : String) (input : Value) : Checked α :=
  .bad [⟨problem, [], input⟩]

def under {α : Type} (step : Crumb) : Checked α → Checked α
  | .good a => .good a
  | .bad cs => .bad (cs.map fun c => { c with place := step :: c.place })

def complaints {α : Type} : Checked α → List Complaint
  | .good _ => []
  | .bad cs => cs

def toExcept {α : Type} (model : String) : Checked α → Except Fault α
  | .good a => .ok a
  | .bad cs => .error (.invalid model cs)

theorem map_eq_good {α β : Type} {f : α → β} {x : Checked α} {b : β} :
    x.map f = .good b ↔ ∃ a, x = .good a ∧ f a = b := by
  cases x <;> simp [map]

theorem apply_eq_good {α β : Type} {f : Checked (α → β)} {x : Checked α} {b : β} :
    f.apply x = .good b ↔ ∃ g a, f = .good g ∧ x = .good a ∧ g a = b := by
  cases f <;> cases x <;> simp [apply, map]

theorem under_eq_good {α : Type} {step : Crumb} {x : Checked α} {a : α} :
    x.under step = .good a ↔ x = .good a := by
  cases x <;> simp [under]

end Checked

abbrev Form (α : Type) := Value → Checked α

namespace Form

open Checked

/-- A text; a noncharacter takes the place of each half of a surrogate pair that stands alone. -/
def text : Form String
  | .text s => .good s
  | .unpaired codes => .good (textOfCodes '\uffff' codes)
  | v => complain "string_type" v

def codes : Form (List Nat)
  | .text s => .good (s.toList.map Char.toNat)
  | .unpaired codes => .good codes
  | v => complain "string_type" v

def filledText : Form String
  | .text s => if s.isEmpty then complain "string_too_short" (.text s) else .good s
  | .unpaired codes => complain "string_unicode" (.unpaired codes)
  | v => complain "string_type" v

def optional {α : Type} (form : Form α) : Form (Option α)
  | .null => .good none
  | v => (form v).map some

def items {α : Type} (form : Form α) (n : Nat) : List Value → Checked (List α)
  | [] => .good []
  | v :: vs => ((form v).under (.index n)).map List.cons |>.apply (items form (n + 1) vs)

def list {α : Type} (form : Form α) : Form (List α)
  | .list vs => items form 0 vs
  | v => complain "list_type" v

def wordsForTrue : List String := ["1", "on", "t", "true", "y", "yes"]

def wordsForFalse : List String := ["0", "off", "f", "false", "n", "no"]

def flagOfWord? (s : String) : Option Bool :=
  let word := String.ofList (s.toList.map Double.lowerAscii)
  if wordsForTrue.contains word then some true
  else if wordsForFalse.contains word then some false
  else none

def fitsWord (i : Int) : Bool :=
  -Int.pow 2 63 ≤ i && i < Int.pow 2 63

def wordOf? (d : Double) : Option Int :=
  d.toInt?.filter fun i => -Int.pow 2 63 < i && i < Int.pow 2 63

def flagOfNumber (input : Value) : Option Int → Checked Bool
  | some 0 => .good false
  | some 1 => .good true
  | some _ => complain "bool_parsing" input
  | none => complain "bool_type" input

def flag : Form Bool
  | .bool b => .good b
  | .text s =>
    match flagOfWord? s with
    | some b => .good b
    | none => complain "bool_parsing" (.text s)
  | .unpaired codes => complain "string_unicode" (.unpaired codes)
  | .int i => flagOfNumber (.int i) (if fitsWord i then some i else none)
  | .float d => flagOfNumber (.float d) (wordOf? d)
  | v => complain "bool_type" v

def wholeOfText (s : String) : Checked Int :=
  match Whole.read s with
  | .ok i => .good i
  | .error .malformed => complain "int_parsing" (.text s)
  | .error .tooLong => complain "int_parsing_size" (.text s)

def wholeOfDouble (d : Double) : Checked Int :=
  match d with
  | .finite .. =>
    match d.toInt?, wordOf? d with
    | none, _ => complain "int_from_float" (.float d)
    | some _, some i => .good i
    | some _, none => complain "int_parsing_size" (.float d)
  | _ => complain "finite_number" (.float d)

def whole : Form Int
  | .bool b => .good (if b then 1 else 0)
  | .int i => .good i
  | .float d => wholeOfDouble d
  | .text s => wholeOfText s
  | .unpaired codes => complain "string_unicode" (.unpaired codes)
  | v => complain "int_type" v

def member {α : Type} (name : String) (form : Form α) : Form α := fun v =>
  under (.field name) <|
    match v.get? name with
    | some x => form x
    | none => complain "missing" v

def memberOr {α : Type} (name : String) (default : α) (form : Form α) : Form α := fun v =>
  match v.get? name with
  | some x => (form x).under (.field name)
  | none => .good default

theorem member_eq_good {α : Type} {name : String} {form : Form α} {v : Value} {a : α} :
    member name form v = .good a ↔ ∃ x, v.get? name = some x ∧ form x = .good a := by
  rw [member, under_eq_good]
  cases v.get? name <;> simp [complain]

def object {α : Type} (otherwise : String) (form : Form α) : Form α
  | .map entries => form (.map entries)
  | v => complain otherwise v

theorem object_eq_good {α : Type} {otherwise : String} {form : Form α} {v : Value} {a : α} :
    object otherwise form v = .good a ↔ ∃ entries, v = .map entries ∧ form v = .good a := by
  cases v <;> simp [object, complain]

end Form

end BuildScripts
