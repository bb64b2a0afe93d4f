import BuildScripts.Proofs.Json.Roundtrip
import BuildScripts.Server.Submission
import BuildScripts.Upload.Message

namespace BuildScripts

open BuildScripts.Text

namespace Form

theorem items_map {α : Type} {form : Form α} {toValue : α → Value} (h : ∀ a, form (toValue a) = .good a)
    (as : List α) (n : Nat) : items form n (as.map toValue) = .good as := by
  induction as generalizing n with
  | nil => rfl
  | cons a as ih =>
    rw [List.map_cons, items, h, ih]
    rfl

theorem list_map {α : Type} {form : Form α} {toValue : α → Value} (h : ∀ a, form (toValue a) = .good a)
    (as : List α) : list form (.list (as.map toValue)) = .good as :=
  items_map h as 0

theorem list_texts (items : List String) : list text (.texts items) = .good items :=
  have htext : ∀ s, text (.text s) = .good s := fun _ => rfl
  list_map htext items

theorem optional_ofText? (s : Option String) : optional text (.ofText? s) = .good s := by
  cases s <;> rfl

theorem filledText_text {s : String} (h : s ≠ "") : filledText (.text s) = .good s := by
  rw [filledText, if_neg (by simpa using h)]

end Form

theorem Value.plain_texts {room : Nat} (items : List String) :
    (Value.texts items).Plain (room + 1) := by
  refine .list fun v hv => ?_
  obtain ⟨s, -, rfl⟩ := List.mem_map.1 hv
  exact .text s

theorem Value.plain_ofText? {room : Nat} (s : Option String) : (Value.ofText? s).Plain room := by
  cases s with
  | none => exact .null
  | some s => exact .text s

namespace Upload

theorem plain_toValue {room : Nat} (u : Upload) : u.toValue.Plain (room + 1) := by
  refine .object (show ["file_name", "content"].Nodup by decide) ?_
  simp only [List.forall_mem_cons]
  exact ⟨.text _, .text _, List.forall_mem_nil _⟩

theorem fileName_toValue {u : Upload} (h : u.fileName ≠ "") :
    Form.member "file_name" Form.filledText u.toValue = .good u.fileName := by
  rw [Form.member, toValue]
  exact congrArg (Checked.under (.field "file_name")) (Form.filledText_text h)

theorem form_toValue {u : Upload} (h : u.fileName ≠ "") : form u.toValue = .good u := by
  rw [form, fileName_toValue h]
  rfl

theorem of_eq_ok {name content : String} (h : name ≠ "") : of name content = .ok ⟨name, content⟩ := by
  rw [of, form_toValue h]
  rfl

end Upload

theorem Server.Submission.form_toValue {u : Upload} (h : u.fileName ≠ "") :
    Server.Submission.form u.toValue = .good ⟨u.fileName, u.content.toList.map Char.toNat⟩ := by
  rw [form, Upload.fileName_toValue h]
  rfl

theorem Package.plain_toValue {room : Nat} (p : Package) : p.toValue.Plain (room + 1) := by
  refine .object (show ["name", "version"].Nodup by decide) ?_
  simp only [List.forall_mem_cons]
  exact ⟨.text _, Value.plain_ofText? _, List.forall_mem_nil _⟩

namespace Receipt

theorem plain_toValue {room : Nat} {r : Receipt} (h : r.bodyLines.natAbs < 10 ^ Json.longest) :
    r.toValue.Plain (room + 3) := by
  refine .object (show ["ok", "file_name", "stored_path", "references", "source_files",
    "package_references", "body_lines"].Nodup by decide) ?_
  simp only [List.forall_mem_cons]
  refine ⟨.bool _, .text _, .text _, Value.plain_texts _, Value.plain_texts _, ?_, .int h,
    List.forall_mem_nil _⟩
  refine .list fun v hv => ?_
  obtain ⟨p, -, rfl⟩ := List.mem_map.1 hv
  exact p.plain_toValue

theorem packageForm_toValue (p : Package) : packageForm p.toValue = .good p := by
  have hversion : Form.memberOr "version" none (Form.optional Form.text) p.toValue =
      .good p.version :=
    congrArg (Checked.under (.field "version")) (Form.optional_ofText? p.version)
  have hform : packageForm p.toValue =
      (Checked.good (Package.mk p.name)).apply
        (Form.memberOr "version" none (Form.optional Form.text) p.toValue) := rfl
  rw [hform, hversion]
  rfl

theorem ofValue_toValue (r : Receipt) : ofValue r.toValue = .ok r := by
  have hreferences : Form.memberOr "references" [] (Form.list Form.text) r.toValue =
      .good r.references :=
    congrArg (Checked.under (.field "references")) (Form.list_texts r.references)
  have hsources : Form.memberOr "source_files" [] (Form.list Form.text) r.toValue =
      .good r.sourceFiles :=
    congrArg (Checked.under (.field "source_files")) (Form.list_texts r.sourceFiles)
  have hpackages : Form.memberOr "package_references" [] (Form.list packageForm) r.toValue =
      .good r.packages :=
    congrArg (Checked.under (.field "package_references")) (Form.list_map packageForm_toValue r.packages)
  have hform : form r.toValue =
      ((((Checked.good (Receipt.mk r.ok r.fileName r.storedPath)).apply
        (Form.memberOr "references" [] (Form.list Form.text) r.toValue)).apply
        (Form.memberOr "source_files" [] (Form.list Form.text) r.toValue)).apply
        (Form.memberOr "package_references" [] (Form.list packageForm) r.toValue)).apply
        (.good r.bodyLines) := rfl
  rw [ofValue, hform, hreferences, hsources, hpackages]
  rfl

end Receipt

end BuildScripts
