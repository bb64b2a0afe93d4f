import BuildScripts.Script.Metadata
import BuildScripts.Text.Basic

namespace BuildScripts

open BuildScripts.Text

inductive Directive
  | reference
  | assembly
  | sourceFile
  | package
  deriving DecidableEq, Repr

namespace Directive

def marker : Directive → String
  | .reference => "//#ref"
  | .assembly => "//#ass"
  | .sourceFile => "//#imp"
  | .package => "//#pkg"

def marks (d : Directive) (line : String) : Bool :=
  beginsWith d.marker line

def payloadChars (line : List Char) : Option (List Char) :=
  match line.dropWhile (· != ' ') with
  | _ :: c :: cs => some (c :: cs)
  | _ => none

def payload (line : String) : Option String :=
  (payloadChars line.toList).map String.ofList

def cutAtComma (cs : List Char) : List Char × List Char :=
  (cs.takeWhile (· != ','), (cs.dropWhile (· != ',')).drop 1)

def readPackage (token : String) : Package :=
  let (name, version) := cutAtComma token.toList
  let version := stripChars version
  ⟨String.ofList (stripChars name),
    if version.isEmpty then none else some (String.ofList version)⟩

theorem length_marker (d : Directive) : d.marker.toList.length = 6 := by
  cases d <;> rfl

theorem eq_of_marker_eq {d e : Directive} (h : d.marker.toList = e.marker.toList) : d = e := by
  have hc : d.marker = e.marker := String.toList_inj.1 h
  cases d <;> cases e <;> simp_all [marker]

theorem eq_of_marks {d e : Directive} {line : String} (hd : d.marks line = true)
    (he : e.marks line = true) : d = e := by
  obtain ⟨r, hr⟩ := (beginsWith_iff _ _).1 hd
  obtain ⟨s, hs⟩ := (beginsWith_iff _ _).1 he
  have hl : d.marker.toList.length = e.marker.toList.length := by
    rw [length_marker, length_marker]
  exact eq_of_marker_eq (List.append_inj_left (hr.symm.trans hs) hl)

end Directive

end BuildScripts
