import Recurrence.Proofs.EditGrammar
import Recurrence.Proofs.SentenceWords
import Recurrence.Proofs.Session
import Recurrence.Proofs.Transcript
import Recurrence.Proofs.Written

/-!
# The text of a transcript

A transcript is printed line by line and can be read line by line. No line of it breaks: a line
break in an expression, a sentence or a label comes from the expression that the session began with
or from one of its edits, however the schedule was edited and switched in between.
-/
namespace Recurrence

open Text

namespace Text

/-- A blank other than the space. The line feed and all other line breaks are of this kind. -/
def IsBreak (c : Char) : Prop := isBlank c = true ∧ c ≠ ' '

instance (c : Char) : Decidable (IsBreak c) := inferInstanceAs (Decidable (_ ∧ _))

/-- The text has no breaks: its only blanks are spaces. -/
def IsUnbroken (cs : List Char) : Prop := ∀ c ∈ cs, ¬ IsBreak c

instance (cs : List Char) : Decidable (IsUnbroken cs) :=
  decidable_of_iff ((cs.all fun c => !decide (IsBreak c)) = true) (by simp [IsUnbroken])

private theorem IsWord.isUnbroken {w : List Char} (h : IsWord w) : IsUnbroken w := by
  intro c hc hbreak
  have hblank := h.2 c hc
  rw [hbreak.1] at hblank
  contradiction

private theorem isUnbroken_intercalate {sep : List Char} {ws : List (List Char)}
    (hsep : IsUnbroken sep)
    (hws : ∀ w ∈ ws, IsWord w) : IsUnbroken (sep.intercalate ws) := by
  intro c hc
  rcases mem_or_exists_mem_of_mem_intercalate hc with hc | ⟨w, hw, hc⟩
  · exact hsep c hc
  · exact (hws w hw).isUnbroken c hc

private theorem IsUnbroken.notMem {cs : List Char} (h : IsUnbroken cs) {c : Char} (hc : IsBreak c) :
    c ∉ cs := fun hmem => h c hmem hc

end Text

namespace Descriptor

variable {d : Descriptor} {c : Char}

private theorem isUnbroken_toCron (h : d.frequency ≠ .custom) : IsUnbroken d.toCron.toList := by
  obtain ⟨f, hf⟩ := exists_fields? h
  rw [toList_toCron hf]
  exact isUnbroken_intercalate (by decide) (isWord_of_fields? hf)

private theorem isUnbroken_sentence (h : d.frequency ≠ .custom) : IsUnbroken d.sentence.toList := by
  have htold : d.told.frequency ≠ .custom := by rwa [ne_eq, frequency_told_eq_custom_iff]
  rw [toList_sentence h]
  exact isUnbroken_intercalate (by decide) (View.isWord_of_mem_words htold)

/-- Only a custom text brings a break into the expression. -/
theorem notMem_toCron (hc : IsBreak c) (h : c ∉ d.customCron.toList) : c ∉ d.toCron.toList := by
  by_cases hd : d.frequency = .custom
  · rwa [toCron_of_custom hd]
  · exact (isUnbroken_toCron hd).notMem hc

private theorem notMem_sentence (hc : IsBreak c) (h : c ∉ d.customCron.toList) :
    c ∉ d.sentence.toList := by
  by_cases hd : d.frequency = .custom
  · have hlabel : IsUnbroken "Custom schedule: ".toList := by decide
    rw [sentence_of_custom hd, String.toList_append, List.mem_append, not_or]
    exact ⟨hlabel.notMem hc, h⟩
  · exact (isUnbroken_sentence hd).notMem hc

end Descriptor

namespace Edit

variable {e : Edit} {c : Char}

private theorem isWord_fieldName (e : Edit) : IsWord e.fieldName.toList := by
  have hall : ∀ name ∈ fieldNames, IsWord name.toList := by decide
  exact hall e.fieldName e.fieldName_mem

private theorem isUnbroken_shortNames (ds : List Weekday) :
    IsUnbroken (",".intercalate (ds.map Weekday.shortName)).toList := by
  rw [String.toList_intercalate, List.map_map]
  refine isUnbroken_intercalate (by decide) ?_
  rw [List.forall_mem_map]
  exact fun d _ => d.isWord_shortName

private theorem notMem_value {value : List Char} (hc : IsBreak c) (he : e.SaysValue value)
    (h : c ∉ value) : c ∉ e.value.toList := by
  cases e with
  | frequency f =>
    have hname : IsWord f.name.toList := by cases f <;> decide
    exact hname.isUnbroken.notMem hc
  | number field text =>
    obtain rfl : text.toList = value := he
    exact h
  | toggleDay day => exact day.isWord_shortName.isUnbroken.notMem hc
  | setDays days => exact (isUnbroken_shortNames days.days).notMem hc
  | custom text =>
    obtain rfl : text.toList = value := he
    exact h

private theorem notMem_toText_iff (hc : IsBreak c) : c ∉ e.toText.toList ↔ c ∉ e.value.toList := by
  have hname : c ∉ e.fieldName.toList := e.isWord_fieldName.isUnbroken.notMem hc
  have hequals : c ≠ '=' := by
    intro h
    rw [h] at hc
    revert hc
    decide
  rw [toList_toText, List.mem_append, List.mem_cons]
  simp only [hname, hequals, false_or]

private theorem notMem_toText {raw : String} (hc : IsBreak c) (he : ofText raw = .ok e)
    (h : c ∉ raw.toList) : c ∉ e.toText.toList := by
  obtain ⟨name, value, hraw, -, hvalue⟩ := ofText_eq_ok_iff.mp he
  rw [hraw.toList_eq, List.mem_append, List.mem_cons, not_or, not_or] at h
  rw [notMem_toText_iff hc]
  exact notMem_value hc hvalue h.2.2

end Edit

namespace Descriptor

variable {d : Descriptor} {c : Char}

/-- The custom text takes a break only from a custom text that is typed. -/
private theorem notMem_customCron_edit {e : Edit} (hc : IsBreak c) (hd : c ∉ d.customCron.toList)
    (he : c ∉ e.toText.toList) : c ∉ (d.edit e).customCron.toList := by
  cases hkind : e.custom? with
  | some text =>
    cases e with
    | custom typed => exact (Edit.notMem_toText_iff hc).mp he
    | _ => contradiction
  | none =>
    rw [customCron_edit d hkind]
    -- What a switch seeds is the expression in force.
    split
    · exact notMem_toCron hc hd
    · exact hd

private theorem notMem_customCron_editAll {es : List Edit} (hc : IsBreak c)
    (hd : c ∉ d.customCron.toList) (hes : ∀ e ∈ es, c ∉ e.toText.toList) :
    c ∉ (d.editAll es).customCron.toList := by
  induction es generalizing d with
  | nil => exact hd
  | cons e es ih =>
    rw [List.forall_mem_cons] at hes
    exact ih (notMem_customCron_edit hc hd hes.1) hes.2

end Descriptor

private theorem Editor.notMem_customCron_run_load {s : String} {es : List Edit} {c : Char}
    (hc : IsBreak c) (hs : c ∉ s.toList) (hes : ∀ e ∈ es, c ∉ e.toText.toList) :
    c ∉ ((load s).run es).descriptor.customCron.toList := by
  have hstart : c ∉ (Descriptor.ofCron s).customCron.toList := by
    rwa [Descriptor.customCron_ofCron]
  rw [descriptor_run]
  exact Descriptor.notMem_customCron_editAll hc hstart hes

namespace Transcript

variable {t : Transcript} {s : String} {es : List Edit} {c : Char}

private theorem toList_stepLine (label expression : String) :
    (stepLine label expression).toList =
      label.toList.rightpad 24 ' ' ++ " -> ".toList ++ expression.toList := by
  simp [stepLine, List.rightpad, String.length_toList]

private theorem notMem_stepLine {label expression : String} (hc : IsBreak c)
    (hlabel : c ∉ label.toList)
    (hexpression : c ∉ expression.toList) : c ∉ (stepLine label expression).toList := by
  have harrow : IsUnbroken " -> ".toList := by decide
  have hpadding : c ∉ List.replicate (24 - label.toList.length) ' ' :=
    fun h => hc.2 (List.eq_of_mem_replicate h)
  rw [toList_stepLine, List.rightpad]
  simp only [List.mem_append, not_or]
  exact ⟨⟨⟨hlabel, hpadding⟩, harrow.notMem hc⟩, hexpression⟩

/-- A step names one of the edits and shows the expression that the edits up to it lead to. -/
private theorem Tells.exists_of_mem_steps (ht : t.Tells s es) {p : String × String}
    (hp : p ∈ t.steps) :
    ∃ e ∈ es, ∃ front, front ⊆ es ∧
      p = (e.toText, ((Editor.load s).run front).descriptor.toCron) := by
  obtain ⟨n, hn, hget⟩ := List.mem_iff_getElem.mp hp
  have hlt : n < es.length := ht.length_steps ▸ hn
  have hstep := ht.step n hlt
  rw [List.getElem?_eq_getElem hn, hget] at hstep
  exact ⟨es[n], List.getElem_mem hlt, es.take (n + 1), List.take_subset _ _,
    Option.some.inj hstep⟩

private theorem lines_eq (t : Transcript) :
    t.lines = ("  " ++ t.initial) :: t.steps.map (fun p => stepLine p.1 p.2) ++
      ["", t.expression, t.description] := rfl

private theorem Tells.length_lines (ht : t.Tells s es) : t.lines.length = es.length + 4 := by
  simp [lines_eq, ht.length_steps]

private theorem Tells.getElem?_lines_succ (ht : t.Tells s es) {n : Nat} (h : n < es.length) :
    t.lines[n + 1]? =
      some (stepLine es[n].toText ((Editor.load s).run (es.take (n + 1))).descriptor.toCron) := by
  have hn : n < (t.steps.map fun p => stepLine p.1 p.2).length := by
    rwa [List.length_map, ht.length_steps]
  rw [lines_eq, List.cons_append, List.getElem?_cons_succ, List.getElem?_append_left hn,
    List.getElem?_map, ht.step n h, Option.map_some]

private theorem Tells.drop_lines (ht : t.Tells s es) :
    t.lines.drop (es.length + 1) = ["", t.expression, t.description] := by
  rw [lines_eq]
  apply List.drop_left'
  rw [List.length_cons, List.length_map, ht.length_steps]

private theorem Tells.notMem_lines (ht : t.Tells s es) (hc : IsBreak c) (hs : c ∉ s.toList)
    (hes : ∀ e ∈ es, c ∉ e.toText.toList) : ∀ l ∈ t.lines, c ∉ l.toList := by
  have hcustom {front : List Edit} (h : front ⊆ es) :
      c ∉ ((Editor.load s).run front).descriptor.customCron.toList :=
    Editor.notMem_customCron_run_load hc hs fun e he => hes e (h he)
  have hinitial : c ∉ t.initial.toList := by
    rw [ht.initial]
    apply Descriptor.notMem_toCron hc
    rwa [Descriptor.customCron_ofCron]
  have hindent : IsUnbroken "  ".toList := by decide
  simp only [lines_eq, List.cons_append, List.forall_mem_cons, List.forall_mem_append,
    List.forall_mem_map]
  refine ⟨?_, ?_, ?_, ?_, ?_, nofun⟩
  · rw [String.toList_append, List.mem_append, not_or]
    exact ⟨hindent.notMem hc, hinitial⟩
  · intro p hp
    obtain ⟨e, he, front, hfront, rfl⟩ := ht.exists_of_mem_steps hp
    exact notMem_stepLine hc (hes e he) (Descriptor.notMem_toCron hc (hcustom hfront))
  · exact List.not_mem_nil
  · rw [ht.expression]
    exact Descriptor.notMem_toCron hc (hcustom (List.Subset.refl es))
  · rw [ht.description]
    exact Descriptor.notMem_sentence hc (hcustom (List.Subset.refl es))

private theorem splitOn_render {out : Output} (hout : out.json = false)
    (h : ∀ l ∈ t.lines, '\n' ∉ l.toList) :
    (t.render out).toList.splitOn '\n' = t.lines.map String.toList := by
  have htext : t.render out = "\n".intercalate t.lines := by
    rw [render, hout]
    rfl
  rw [htext, String.toList_intercalate]
  refine List.splitOn_intercalate '\n' ?_ ?_
  · rw [List.forall_mem_map]
    exact h
  · simp [lines_eq]

/-- The text of a session without line feeds in its expression and its edits has four lines more
than edits: the expression of the beginning, for each edit its label, padded to 24 characters or
longer, and the expression behind it, an empty line, and the expression and the sentence of the
end. -/
theorem splitOn_render_ofTexts {s : String} {raws : List String} {out : Output}
    (hout : out.json = false) (hs : '\n' ∉ s.toList)
    (hraws : ∀ raw ∈ raws, '\n' ∉ raw.toList ∧ ∃ e, Edit.ofText raw = .ok e) :
    ∃ t events es, ofTexts s raws = .ok (t, events) ∧
      List.Forall₂ (fun raw e => Edit.ofText raw = .ok e) raws es ∧
      let start := Editor.load s
      let final := start.run es
      let lines := (t.render out).toList.splitOn '\n'
      lines.length = raws.length + 4 ∧
        lines[0]? = some ("  ".toList ++ start.expression.toList) ∧
        (∀ n (h : n < es.length), lines[n + 1]? =
          some (es[n].toText.toList.rightpad 24 ' ' ++ " -> ".toList ++
            (start.run (es.take (n + 1))).expression.toList)) ∧
        lines.drop (raws.length + 1) = [[], final.expression.toList, final.preview.toList] := by
  obtain ⟨es, hread⟩ := exists_mapM_of_forall fun raw hraw => (hraws raw hraw).2
  have hes := mapM_eq_ok_iff.mp hread
  have hlength : raws.length = es.length := hes.length_eq
  have hlabels : ∀ e ∈ es, '\n' ∉ e.toText.toList := by
    intro e he
    obtain ⟨raw, hraw, htyped⟩ := (mem_iff_of_mapM hread e).mp he
    exact Edit.notMem_toText (by decide) htyped (hraws raw hraw).1
  have htells := tells_ofEdits s es
  refine ⟨(ofEdits s es).1, (ofEdits s es).2, es, ofTexts_eq_ok_iff.mpr ⟨es, hes, rfl⟩, hes, ?_⟩
  intro start final lines
  have hlines : lines = (ofEdits s es).1.lines.map String.toList :=
    splitOn_render hout (htells.notMem_lines (by decide) hs hlabels)
  rw [hlines, hlength]
  refine ⟨?_, ?_, ?_, ?_⟩
  · rw [List.length_map, htells.length_lines]
  · exact congrArg some String.toList_append
  · intro n h
    rw [List.getElem?_map, htells.getElem?_lines_succ h, Option.map_some, toList_stepLine]
    rfl
  · rw [← List.map_drop, htells.drop_lines]
    rfl

example : (ofEdits "0 2 * * *" [.number .hour "14"]).1.render ⟨false, false⟩ =
    "  0 2 * * *\nhour=14                  -> 0 14 * * *\n\n0 14 * * *\nDaily at 2:00 PM" := by
  decide

/-- The session begins with a carriage return, which the switch to custom replaces. -/
theorem splitOn_render_ofTexts_seeded :
    let s := "\r"
    let raws := [" frequency = WEEKLY", "days=,", "frequency=custom", "hour= 99999999999999999999\t"]
    '\n' ∉ s.toList ∧ (∀ raw ∈ raws, '\n' ∉ raw.toList ∧ ∃ e, Edit.ofText raw = .ok e) ∧
      ∃ t events, ofTexts s raws = .ok (t, events) ∧
        let lines := (t.render ⟨false, true⟩).toList.splitOn '\n'
        lines.length = 8 ∧ lines[0]? = some "  0 0 * * *".toList ∧
          lines[4]? = some "hour= 99999999999999999999\t -> 0 0 * * 1".toList ∧
          lines.drop 5 = [[], "0 0 * * 1".toList, "Custom schedule: 0 0 * * 1".toList] := by
  intro s raws
  let edits : List Edit :=
    [.frequency .weekly, .setDays (.ofDays []), .frequency .custom,
      .number .hour " 99999999999999999999\t"]
  have hread : raws.mapM Edit.ofText = .ok edits := by decide
  have hs : '\n' ∉ s.toList := by decide
  have hraws : ∀ raw ∈ raws, '\n' ∉ raw.toList ∧ ∃ e, Edit.ofText raw = .ok e := by
    have hfeed : ∀ raw ∈ raws, '\n' ∉ raw.toList := by decide
    exact fun raw hraw => ⟨hfeed raw hraw, forall_exists_of_mapM hread raw hraw⟩
  have hout : (⟨false, true⟩ : Output).json = false := rfl
  obtain ⟨t, events, es, ht, hes, hlength, hfirst, hstep, hlast⟩ :=
    splitOn_render_ofTexts hout hs hraws
  obtain rfl : edits = es := Except.ok.inj (hread.symm.trans (mapM_eq_ok_iff.mpr hes))
  refine ⟨hs, hraws, t, events, ht, hlength, hfirst.trans (by decide), ?_, hlast.trans (by decide)⟩
  exact (hstep 3 (by decide)).trans (by decide)

end Transcript
end Recurrence
