import Sambervise.Backend.Updates
import Sambervise.Text.Trim
import Sambervise.Ui.FormKeeps

namespace Sambervise.Ui.Contacts

open Text Ldap Model Backend

/-! The proxy addresses as the lines of a text -/

theorem fields_line {line : CString} (whole : newline ∉ line) :
    fields newline line = if strstrip line = [] then [] else [strstrip line] := by
  by_cases blank : strstrip line = []
  · simp [fields, List.splitOn_eq_singleton whole, blank]
  · simp [fields, List.splitOn_eq_singleton whole, blank]

/-- What the loop adds is the fields of what it has before it. -/
theorem linesToStrvLoop_eq (p : CString) (out : List CString) :
    linesToStrvLoop p out = out ++ fields newline p := by
  induction size : p.length using Nat.strong_induction_on generalizing p out with
  | _ bound ih =>
      rw [linesToStrvLoop]
      by_cases atEnd : p = []
      · rw [if_pos atEnd, atEnd, fields_nil, List.append_nil]
      · rw [if_neg atEnd]
        have added : (if p.takeWhile (· != newline) = [] then out
            else if strstrip (p.takeWhile (· != newline)) = [] then out
            else out ++ [strstrip (p.takeWhile (· != newline))]) =
              out ++ fields newline (p.takeWhile (· != newline)) := by
          rw [fields_line (notMem_takeWhile_ne newline p)]
          split
          next empty =>
            simp [empty, strstrip, strchug, strchomp]
          · split
            · rw [List.append_nil]
            · rfl
        dsimp only
        rw [added]
        by_cases last : strchr newline p = []
        · rw [if_pos last, takeWhile_of_strchr_nil last]
        · have shorter := length_tail_strchr last
          rw [if_neg last, ih _ (size ▸ shorter) _ _ rfl, List.append_assoc,
            ← fields_append_cons, takeWhile_append_strchr last]

/-- The lines without the blanks around them; an empty line is none. -/
theorem linesToStrv_eq (text : CString) : linesToStrv text = fields newline text := by
  rw [linesToStrv, linesToStrvLoop_eq, List.nil_append]

/-- A text has no lines where it is blank: a line feed is a blank too. -/
theorem linesToStrv_eq_nil_iff (text : CString) : linesToStrv text = [] ↔ Blank text := by
  rw [linesToStrv_eq]
  exact fields_eq_nil_iff rfl text

theorem linesToStrv_strvToLines {lines : List CString}
    (plain : ∀ line ∈ lines, PlainField newline line) :
    linesToStrv (strvToLines (some lines)) = lines := by
  rw [linesToStrv_eq, strvToLines, Option.getD_some,
    @fields_strjoinv newline [] (fun _ none => absurd none List.not_mem_nil),
    flatMap_fields_of_plain plain]

/-! What the update makes of them -/

theorem proxyAddresses_mem_mods (contact : SbvContact) (form : Form) :
    replaceMod "proxyAddresses" (linesToStrv form.proxy) ∈ (onSaveClicked contact form).mods := by
  unfold Contacts.UpdateData.mods
  exact List.mem_append_right _ List.mem_cons_self

theorem values_proxyAddresses (contact : SbvContact) (form : Form) (entry : Ldap.Entry) :
    (replaced entry (onSaveClicked contact form).mods).attrs.values (cstr "proxyAddresses") =
      linesToStrv form.proxy := by
  have distinct := @FieldSave.distinct_mods (contactsSave contact form form)
  rw [mods_contactsSave] at distinct
  exact values_replaced_of_mem distinct (proxyAddresses_mem_mods contact form) entry

/-- The lines of a text are its non-blank lines, each trimmed; plain lines come back as
they are; and a save that succeeds leaves the contact with just the lines of the text,
with none where it is blank. -/
theorem proxyLines_kept :
    (∀ text, Tokens newline text (linesToStrv text)) ∧
      (∀ lines : List CString,
        (∀ line ∈ lines, line ≠ [] ∧ newline ∉ line ∧ Bare line) →
          linesToStrv (strvToLines (some lines)) = lines) ∧
      (∀ text, linesToStrv text = [] ↔ Blank text) ∧
      ∀ contact form session,
        let update := Update.contact (onSaveClicked contact form)
        (update.perform session).1 = .ok () →
          ∃ middle name entry after, update.Reaches session middle ∧
            middle.find session.rule update.target = .ok (name, entry) ∧
            (update.perform session).2.directory = Function.update middle name (some after) ∧
            after.objectGuid = entry.objectGuid ∧
            after.attrs.values (cstr "proxyAddresses") = linesToStrv form.proxy := by
  refine ⟨fun text => tokens_iff.mpr (linesToStrv_eq text), ?_, linesToStrv_eq_nil_iff, ?_⟩
  · intro lines plain
    refine linesToStrv_strvToLines fun line member => ?_
    obtain ⟨nonempty, whole, bare⟩ := plain line member
    exact ⟨nonempty, whole, strstrip_of_bare bare⟩
  · intro contact form session update success
    have something : (onSaveClicked contact form).mods ≠ [] :=
      List.ne_nil_of_mem (proxyAddresses_mem_mods contact form)
    obtain ⟨middle, name, entry, reaches, found, after⟩ :=
      @Update.perform_success (.contact (onSaveClicked contact form)) session something success
    refine ⟨middle, name, entry, replaced entry (onSaveClicked contact form).mods, reaches,
      found, after, ?_, ?_⟩
    · exact objectGuid_replaced entry _
    · exact values_proxyAddresses contact form entry

theorem proxyLines_kept_lab :
    let contact : SbvContact := { dn := some (cstr "CN=a,OU=Lab"), cn := some (cstr "a") }
    let form : Form :=
      { text := fun entry => if entry = .cn then cstr "a" else []
        proxy := cstr "smtp:a\n\n smtp:b " }
    let update := Update.contact (onSaveClicked contact form)
    let session := Update.labSession (cstr "a") []
    ∃ middle name entry after, update.Reaches session middle ∧
      middle.find session.rule update.target = .ok (name, entry) ∧
      (update.perform session).2.directory = Function.update middle name (some after) ∧
      after.objectGuid = entry.objectGuid ∧
      after.attrs.values (cstr "proxyAddresses") = linesToStrv form.proxy :=
  proxyLines_kept.2.2.2 _ _ _ rfl

end Sambervise.Ui.Contacts
