import Mathlib.Tactic.SplitIfs
import Recurrence.Proofs.Lexeme
import Recurrence.Toml.Text

/-!
# TOML strings read back

Between its quotes a written string is made of items, each of which is read as one character, with
only so many quotes in a row as the style has room for. The reader undoes that, and the writer takes
a style whose conditions the text meets.
-/
namespace Recurrence.Toml

private theorem isControl_eq_false_iff {c : Char} :
    isControl c = false ↔ isPlain c = true ∨ c = '\n' := by
  rw [isControl, Bool.not_eq_false', Bool.or_eq_true, beq_iff_eq]

private theorem toNat_lt_of_isControl {c : Char} (h : isControl c = true) : c.toNat < 0x80 := by
  simp only [isControl, isPlain, Bool.not_eq_true', Bool.or_eq_false_iff, Bool.and_eq_false_iff,
    decide_eq_false_iff_not] at h
  omega

private theorem scalar?_toNat (c : Char) : scalar? c.toNat = some c := by
  have hvalid : c.toNat.isValidChar := c.valid
  unfold scalar?
  rw [dif_pos hvalid]
  rfl

private theorem hexDigit?_upper (n : Nat) :
    Text.hexDigit? (Nat.digitChar (n % 16)).toUpper = some (n % 16) := by
  have hall : ∀ k : Fin 16, Text.hexDigit? (Nat.digitChar k).toUpper = some k.val := by decide
  exact hall ⟨n % 16, Nat.mod_lt n (by decide)⟩

namespace Style

/-- How many quotes in a row may stand as they are. -/
def room (st : Style) : Nat := if st.multiline then 2 else 0

/-- The item `d :: e` stands for the character, whatever follows it. It does not look like the end
of the string, and like the end of a line only if it stands for one. -/
structure Stands (st : Style) (d : Char) (e : List Char) (c : Char) : Prop where
  ne_quote : d ≠ st.quote
  ne_carriage : d ≠ '\r'
  eq_newline : d = '\n' → c = '\n'
  readFrom (cs : List Char) : st.readFrom .text (d :: e ++ cs) =
    (st.readFrom .text cs).map fun r => (c :: r.1, r.2)

/-- Between the quotes of the style the first text shows the second. -/
inductive Shows (st : Style) : List Char → List Char → Prop
  | quotes {k : Nat} : k ≤ st.room →
    Shows st (List.replicate k st.quote) (List.replicate k st.quote)
  | item {k : Nat} {d c : Char} {e t cs : List Char} :
    k ≤ st.room → st.Stands d e c → Shows st t cs →
      Shows st (List.replicate k st.quote ++ (d :: e ++ t))
        (List.replicate k st.quote ++ c :: cs)

variable {st : Style}

private theorem length_takeWhile_replicate {q : Char} {cs : List Char} (h : cs.head? ≠ some q)
    (n : Nat) : ((List.replicate n q ++ cs).takeWhile (· == q)).length = n := by
  have hrun : ∀ c ∈ List.replicate n q, (c == q) = true := by simp [List.mem_replicate]
  have hcs : ∀ c ∈ cs.head?, (c == q) = false := by
    rintro c hc
    exact beq_false_of_ne fun heq => h (heq ▸ hc)
  rw [(Text.takeWhile_append_of_head? hrun hcs).1, List.length_replicate]

private theorem close?_delimiter {k : Nat} (hk : k ≤ st.room) {rest : List Char}
    (hrest : rest.head? ≠ some st.quote) :
    st.close? .text (List.replicate k st.quote ++ (st.delimiter ++ rest)) =
      some (List.replicate k st.quote, rest) := by
  unfold room at hk
  unfold close? delimiter
  rw [if_neg (by decide)]
  cases hmulti : st.multiline with
  | false =>
    obtain rfl : k = 0 := by simpa [hmulti] using hk
    simp
  | true =>
    -- The last quotes of the text and the three that close it are one run.
    have hrun := length_takeWhile_replicate hrest (k + 3)
    rw [← List.replicate_append_replicate, List.append_assoc] at hrun
    simp only [hmulti, if_true] at hk hrun ⊢
    rw [hrun]
    have hk : k = 0 ∨ k = 1 ∨ k = 2 := by omega
    rcases hk with rfl | rfl | rfl <;> rfl

private theorem close?_of_ne {k : Nat} (hk : k ≤ st.room) {c : Char} (hc : c ≠ st.quote)
    (cs : List Char) :
    st.close? .text (List.replicate k st.quote ++ c :: cs) = none := by
  unfold room at hk
  unfold close?
  rw [if_neg (by decide)]
  cases hmulti : st.multiline with
  | false =>
    obtain rfl : k = 0 := by simpa [hmulti] using hk
    simp [hc]
  | true =>
    have hhead : (c :: cs).head? ≠ some st.quote := fun h => hc (Option.some.inj h)
    simp only [hmulti, if_true, length_takeWhile_replicate hhead] at hk ⊢
    have hk : k = 0 ∨ k = 1 ∨ k = 2 := by omega
    rcases hk with rfl | rfl | rfl <;> rfl

private theorem readFrom_of_close? {m : Mode} {cs : List Char} {r : List Char × List Char}
    (hne : cs ≠ [])
    (h : st.close? m cs = some r) : st.readFrom m cs = some r := by
  cases cs with
  | nil => contradiction
  | cons c cs => rw [readFrom, h]

private theorem readFrom_of_step {m next : Mode} {c : Char} {out cs : List Char}
    (hclose : st.close? m (c :: cs) = none) (hstep : st.step m c = some (next, out)) :
    st.readFrom m (c :: cs) = (st.readFrom next cs).map fun r => (out ++ r.1, r.2) := by
  rw [readFrom, hclose]
  simp only [hstep, Option.bind_eq_bind, Option.bind_some, Option.pure_def, Option.map_eq_bind]
  rfl

private theorem readFrom_quotes (hq : st.textStep st.quote = some (.text, [st.quote]))
    {k : Nat} (hk : k ≤ st.room) {d : Char} (hd : d ≠ st.quote) (cs : List Char) :
    st.readFrom .text (List.replicate k st.quote ++ d :: cs) =
      (st.readFrom .text (d :: cs)).map fun r => (List.replicate k st.quote ++ r.1, r.2) := by
  induction k with
  | zero => exact Option.map_id'.symm
  | succ k ih =>
    have hclose := close?_of_ne hk hd cs
    rw [List.replicate_succ, List.cons_append] at hclose ⊢
    rw [readFrom_of_step hclose hq, ih (Nat.le_of_succ_le hk), Option.map_map]
    rfl

private theorem Shows.readFrom (hq : st.textStep st.quote = some (.text, [st.quote]))
    {t cs rest : List Char} (h : st.Shows t cs) (hrest : rest.head? ≠ some st.quote) :
    st.readFrom .text (t ++ (st.delimiter ++ rest)) = some (cs, rest) := by
  induction h with
  | quotes hk =>
    refine readFrom_of_close? ?_ (close?_delimiter hk hrest)
    unfold delimiter
    split <;> simp
  | @item k d c e t cs hk hitem _ ih =>
    have hread := hitem.readFrom (t ++ (st.delimiter ++ rest))
    rw [ih] at hread
    simp only [List.append_assoc, List.cons_append] at hread ⊢
    rw [readFrom_quotes hq hk hitem.ne_quote, hread]
    rfl

private theorem readFrom_code {left : Nat} (hleft : 1 < left) (value n : Nat) (cs : List Char) :
    st.readFrom (.code left value) ((Nat.digitChar (n % 16)).toUpper :: cs) =
      st.readFrom (.code (left - 1) (value * 16 + n % 16)) cs := by
  have hstep : st.step (.code left value) (Nat.digitChar (n % 16)).toUpper =
      some (.code (left - 1) (value * 16 + n % 16), []) := by
    simp [step, codeStep, hexDigit?_upper, Nat.not_le.mpr hleft]
  rw [readFrom_of_step rfl hstep]
  exact Option.map_id'

section Escapes

variable (hq : st.quote = '"') (he : st.escapes = true)

include hq he

private theorem readFrom_backslash (cs : List Char) :
    st.readFrom .text ('\\' :: cs) = st.readFrom .escape cs := by
  have hne : '\\' ≠ st.quote := by simp [hq]
  have hstep : st.step .text '\\' = some (.escape, []) := by simp [step, textStep, he]
  rw [readFrom_of_step (close?_of_ne (Nat.zero_le _) hne cs) hstep]
  exact Option.map_id'

private theorem stands_shortEscape {d c : Char} (h : shortEscape? d = some c) :
    st.Stands '\\' [d] c where
  ne_quote := by simp [hq]
  ne_carriage := by decide
  eq_newline := by simp
  readFrom cs := by
    have hstep : st.step .escape d = some (.text, [c]) := by simp only [step, escapeStep, h]
    rw [List.cons_append, readFrom_backslash hq he]
    exact readFrom_of_step rfl hstep

private theorem stands_codeEscape {c : Char} (hc : c.toNat < 0x10000) :
    st.Stands '\\' (codeEscape c).tail c where
  ne_quote := by simp [hq]
  ne_carriage := by decide
  eq_newline := by simp
  readFrom cs := by
    let front := ((0 * 16 + c.toNat / 4096 % 16) * 16 + c.toNat / 256 % 16) * 16 + c.toNat / 16 % 16
    have hmark : st.step .escape 'u' = some (.code 4 0, []) := by
      simp [step, escapeStep, shortEscape?]
    have hvalue : front * 16 + c.toNat % 16 = c.toNat := by
      dsimp only [front]
      omega
    have hlast : st.step (.code 1 front) (Nat.digitChar (c.toNat % 16)).toUpper =
        some (.text, [c]) := by
      simp only [step, codeStep, hexDigit?_upper, Option.bind_eq_bind, Option.bind_some, hvalue,
        scalar?_toNat]
      rfl
    simp only [codeEscape, List.tail_cons, List.cons_append, List.nil_append]
    rw [readFrom_backslash hq he, readFrom_of_step rfl hmark, readFrom_code (by decide),
      readFrom_code (by decide), readFrom_code (by decide), readFrom_of_step rfl hlast]
    exact Option.map_id'

end Escapes

private theorem stands_self {c : Char} (hc : c ≠ st.quote) (hb : st.escapes = true → c ≠ '\\')
    (hcontrol : isControl c = false) (hn : c = '\n' → st.multiline = true) : st.Stands c [] c := by
  have hr : c ≠ '\r' := by
    rintro rfl
    contradiction
  have hstep : st.textStep c = some (.text, [c]) := by
    unfold textStep
    rw [if_neg (by simpa using hb)]
    by_cases hc : c = '\n'
    · subst hc
      rw [if_pos (by simp [hn rfl])]
    · have hplain := (isControl_eq_false_iff.mp hcontrol).resolve_right hc
      simp [hc, hr, hplain]
  exact {
    ne_quote := hc
    ne_carriage := hr
    eq_newline := id
    readFrom := fun cs => readFrom_of_step (close?_of_ne (Nat.zero_le _) hc cs) hstep }

private theorem eq_escape_of_escape? {c : Char} {e : List Char} (h : st.escape? c = some e) :
    (∃ d, shortEscape? d = some c ∧ e = ['\\', d]) ∨ isControl c = true ∧ e = codeEscape c := by
  unfold escape? at h
  split_ifs at h with hb ht hn _ hr h8 h12 hc <;> obtain rfl := Option.some.inj h
  · exact Or.inl ⟨'\\', by rw [hb, shortEscape?], rfl⟩
  · exact Or.inl ⟨'t', ht ▸ rfl, rfl⟩
  · exact Or.inl ⟨'n', hn ▸ rfl, rfl⟩
  · exact Or.inl ⟨'r', hr ▸ rfl, rfl⟩
  · exact Or.inl ⟨'b', h8 ▸ rfl, rfl⟩
  · exact Or.inl ⟨'f', h12 ▸ rfl, rfl⟩
  · exact Or.inr ⟨hc, rfl⟩

private theorem shown_of_escape?_eq_none {c : Char} (h : st.escape? c = none) :
    c ≠ '\\' ∧ isControl c = false ∧ (c = '\n' → st.multiline = true) := by
  unfold escape? at h
  split_ifs at h with hb _ hn hm _ _ _ hc
  · exact ⟨hb, hn ▸ rfl, fun _ => hm⟩
  · exact ⟨hb, Bool.eq_false_iff.mpr hc, fun h => absurd h hn⟩

/-- The quotes that were passed already are put in front, so that each tail of the text is one. -/
private theorem shows_escaped (hq : st.quote = '"') (he : st.escapes = true) {run : Nat}
    (hrun : run ≤ st.room) (cs : List Char) :
    st.Shows (List.replicate run st.quote ++ st.escaped run cs)
      (List.replicate run st.quote ++ cs) := by
  induction cs generalizing run with
  | nil => simpa [escaped] using Shows.quotes hrun
  | cons c cs ih =>
    have hfresh : st.Shows (st.escaped 0 cs) cs := ih (Nat.zero_le _)
    by_cases hc : c = '"'
    · subst hc
      -- A quote goes on with the run while there is room, and an escaped one breaks it.
      by_cases hmore : run < st.room
      · have hshows := ih hmore
        have hescaped : st.escaped run ('"' :: cs) = '"' :: st.escaped (run + 1) cs := if_pos hmore
        rw [hescaped]
        simpa [List.replicate_succ', hq] using hshows
      · have hescaped : st.escaped run ('"' :: cs) = '\\' :: '"' :: st.escaped 0 cs := if_neg hmore
        rw [hescaped]
        exact .item hrun (stands_shortEscape hq he rfl) hfresh
    · rw [escaped, if_neg hc]
      have hne : c ≠ st.quote := by rwa [hq]
      cases hescape : st.escape? c with
      | some e =>
        rcases eq_escape_of_escape? hescape with ⟨d, hd, rfl⟩ | ⟨hcontrol, rfl⟩
        · exact .item hrun (stands_shortEscape hq he hd) hfresh
        · have hlt : c.toNat < 0x10000 := by
            have := toNat_lt_of_isControl hcontrol
            omega
          exact .item hrun (stands_codeEscape hq he hlt) hfresh
      | none =>
        obtain ⟨hb, hcontrol, hn⟩ := shown_of_escape?_eq_none hescape
        exact .item hrun (stands_self hne (fun _ => hb) hcontrol hn) hfresh

private theorem shows_self (he : st.escapes = false) {run : Nat} {cs : List Char}
    (hrun : longestRun st.quote run cs ≤ st.room) (hcontrol : ∀ c ∈ cs, isControl c = false)
    (hn : '\n' ∈ cs → st.multiline = true) :
    st.Shows (List.replicate run st.quote ++ cs) (List.replicate run st.quote ++ cs) := by
  induction cs generalizing run with
  | nil =>
    rw [List.append_nil]
    exact .quotes hrun
  | cons c cs ih =>
    have htail : ∀ c ∈ cs, isControl c = false := fun d hd => hcontrol d (List.mem_cons_of_mem c hd)
    have hlines : '\n' ∈ cs → st.multiline = true := fun h => hn (List.mem_cons_of_mem c h)
    unfold longestRun at hrun
    split at hrun
    next hc =>
      have hshows := ih hrun htail hlines
      simpa [List.replicate_succ', hc] using hshows
    next hc =>
      obtain ⟨hrun, hfresh⟩ := Nat.max_le.mp hrun
      have hc : c ≠ st.quote := hc
      have hitem : st.Stands c [] c :=
        stands_self hc (by simp [he]) (hcontrol c List.mem_cons_self) (fun h => hn (by simp [h]))
      exact .item hrun hitem (ih hfresh htail hlines)

/-- What a string of the style holds between its quotes. -/
def body (st : Style) (cs : List Char) : List Char := if st.escapes then st.escaped 0 cs else cs

/-- Without escapes too the style shows the text. -/
structure Suits (st : Style) (cs : List Char) : Prop where
  quotes : longestRun st.quote 0 cs ≤ st.room
  noControl : ∀ c ∈ cs, isControl c = false
  multiline : '\n' ∈ cs → st.multiline = true

private theorem suits_of_plain? {cs : List Char} (h : plain? cs = some st) :
    (st = .basic ∨ st = .basicLines) ∨ (st = .literal ∨ st = .literalLines) ∧ st.Suits cs := by
  simp only [plain?] at h
  split_ifs at h with hcontrol _ hliteral _ hlines <;> obtain rfl := Option.some.inj h
  · exact Or.inl (Or.inl rfl)
  · simp only [Bool.and_eq_true, decide_eq_true_eq, Bool.not_eq_true', List.contains_eq_mem,
      decide_eq_false_iff_not] at hliteral
    obtain ⟨hquotes, hnewline⟩ := hliteral
    exact Or.inr ⟨Or.inl rfl, Nat.le_of_eq hquotes, by simpa using hcontrol,
      fun h => absurd h hnewline⟩
  · exact Or.inl (Or.inr rfl)
  · exact Or.inr ⟨Or.inr rfl, hlines, by simpa using hcontrol, fun _ => rfl⟩

/-- The style that is taken has escapes, or it does not need them. -/
private theorem suits_ofText (cs : List Char) :
    (ofText cs = .basic ∨ ofText cs = .basicLines) ∨
      (ofText cs = .literal ∨ ofText cs = .literalLines) ∧ (ofText cs).Suits cs := by
  unfold ofText
  cases h : plain? cs with
  | some st => exact suits_of_plain? h
  | none =>
    refine Or.inl ?_
    dsimp only
    split
    · exact Or.inr rfl
    · exact Or.inl rfl

private theorem shows_body (cs : List Char) : (ofText cs).Shows ((ofText cs).body cs) cs := by
  unfold body
  rcases suits_ofText cs with h | ⟨h, hsuits⟩
  · have hescapes : (ofText cs).escapes = true := by rcases h with h | h <;> rw [h] <;> rfl
    have hquote : (ofText cs).quote = '"' := by rcases h with h | h <;> rw [h] <;> rfl
    rw [if_pos hescapes]
    exact shows_escaped hquote hescapes (Nat.zero_le _) cs
  · have hescapes : (ofText cs).escapes = false := by rcases h with h | h <;> rw [h] <;> rfl
    rw [if_neg (by simp [hescapes])]
    exact shows_self hescapes hsuits.quotes hsuits.noControl hsuits.multiline

private theorem dropNewline_of_ne {c : Char} (hn : c ≠ '\n') (hr : c ≠ '\r') (cs : List Char) :
    dropNewline (c :: cs) = c :: cs := by
  unfold dropNewline
  split
  next h => exact absurd (List.cons.inj h).1 hn
  next h => exact absurd (List.cons.inj h).1 hr
  next => rfl

/-- The line end that is dropped is the one that was added. -/
private theorem Shows.dropNewline {t cs : List Char} (h : st.Shows t cs) (hn : st.quote ≠ '\n')
    (hr : st.quote ≠ '\r') (rest : List Char) :
    dropNewline ((if cs.contains '\n' then ['\n'] else []) ++ (t ++ (st.delimiter ++ rest))) =
      t ++ (st.delimiter ++ rest) := by
  split
  next => rfl
  next hnewline =>
    -- Nothing was added, so the first character is a quote or begins the item of another one.
    rw [List.contains_eq_mem, decide_eq_true_eq] at hnewline
    cases h with
    | @quotes k _ =>
      cases k with
      | zero =>
        unfold delimiter
        cases st.multiline <;> exact dropNewline_of_ne hn hr _
      | succ k => exact dropNewline_of_ne hn hr _
    | @item k d c e t cs _ hitem _ =>
      cases k with
      | zero =>
        have hd : d ≠ '\n' := by
          intro hd
          exact hnewline (by simp [hitem.eq_newline hd])
        exact dropNewline_of_ne hd hitem.ne_carriage _
      | succ k => exact dropNewline_of_ne hn hr _

private theorem Shows.ne_quotes {t cs : List Char} (h : st.Shows t cs)
    (hline : st.multiline = false)
    {rest : List Char} (hrest : rest.head? ≠ some st.quote) (tail : List Char) :
    t ++ (st.delimiter ++ rest) ≠ st.quote :: st.quote :: tail := by
  have hdelimiter : st.delimiter = [st.quote] := by
    rw [delimiter, hline]
    rfl
  intro heq
  cases h with
  | @quotes k hk =>
    obtain rfl : k = 0 := by simpa [room, hline] using hk
    rw [hdelimiter] at heq
    obtain ⟨-, rfl⟩ := List.cons.inj heq
    contradiction
  | @item k d c e t cs hk hitem _ =>
    obtain rfl : k = 0 := by simpa [room, hline] using hk
    exact hitem.ne_quote (List.cons.inj heq).1

end Style

open Style

private theorem readString?_cons {q : Char} {cs : List Char} (h : ∀ tail, cs ≠ q :: q :: tail) :
    readString? (q :: cs) = readLineString? (q :: cs) := by
  unfold readString?
  split
  next tail heq =>
    obtain ⟨rfl, rfl⟩ := List.cons.inj heq
    exact absurd rfl (h tail)
  next tail heq =>
    obtain ⟨rfl, rfl⟩ := List.cons.inj heq
    exact absurd rfl (h tail)
  next => rfl

private theorem readString?_write {st : Style}
    (hst : (st = .basic ∨ st = .basicLines) ∨ st = .literal ∨ st = .literalLines) {cs : List Char}
    (h : st.Shows (st.body cs) cs) {rest : List Char} (hrest : rest.head? ≠ some st.quote) :
    readString? (st.write cs ++ rest) = some (String.ofList cs, rest) := by
  have hq : st.textStep st.quote = some (.text, [st.quote]) := by
    rcases hst with (rfl | rfl) | rfl | rfl <;> decide
  have hread := h.readFrom hq hrest
  have hwrite : st.write cs ++ rest =
      st.delimiter ++ ((if st.multiline && cs.contains '\n' then ['\n'] else []) ++
        (st.body cs ++ (st.delimiter ++ rest))) := by
    simp only [write, body, List.append_assoc]
  rw [hwrite]
  rcases hst with (rfl | rfl) | rfl | rfl
  case inl.inl | inr.inl =>
    refine (readString?_cons (h.ne_quotes rfl hrest)).trans ?_
    exact congrArg (Option.map _) hread
  case inl.inr | inr.inr =>
    rw [← h.dropNewline (by decide) (by decide)] at hread
    exact congrArg (Option.map _) hread

theorem readString?_writeString (s : String) {rest : List Char}
    (hrest : ∀ c ∈ rest.head?, c ≠ '"' ∧ c ≠ '\x27') :
    readString? ((writeString s).toList ++ rest) = some (s, rest) := by
  have hstyle := (suits_ofText s.toList).imp_right And.left
  have hquote : rest.head? ≠ some (Style.ofText s.toList).quote := by
    intro h
    obtain ⟨hbasic, hliteral⟩ := hrest _ h
    rcases hstyle with (hst | hst) | hst | hst <;> rw [hst] at hbasic hliteral <;> contradiction
  rw [writeString, String.toList_ofList, readString?_write hstyle (shows_body _) hquote,
    String.ofList_toList]

example :
    writeString "it\x27s \"so\"" = "\"\"\"it\x27s \"so\"\"\"\"" ∧
      readString? "\"\"\"it\x27s \"so\"\"\"\"\n".toList = some ("it\x27s \"so\"", ['\n']) := by
  decide

end Recurrence.Toml
