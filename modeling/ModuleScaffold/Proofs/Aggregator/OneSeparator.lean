import ModuleScaffold.Proofs.Aggregator.LineReading
import ModuleScaffold.Proofs.Aggregator.Literals

/-!
# One comma between two entries

Where no block comment opens and every string ends on its line, the comma ahead
of a new entry is what the list needs: without its comments the new list is the
old one, a comma if that holds an entry and does not end in one, and the new
entry with a comma of its own.
-/

namespace ModuleScaffold

open Text

namespace LexemeReader

/-- The last code point of a text that ends in code is the end of a lexeme. -/
theorem getLast?_uncommented_lexemes {r : LexemeReader} {c : Char}
    (hcode : (r.step c).mode.isCode = true) (hblock : ¬ r.mode.InBlock) :
    ((r.lexemes [c]).flatMap Lexeme.uncommented).getLast? = some c := by
  have hlexemes : r.lexemes [c] = (r.read c).1 ++ (r.step c).unfinished := by
    rw [lexemes_cons]
    rfl
  rw [hlexemes]
  obtain ⟨mode, opened⟩ := r
  cases mode with
  | code =>
      by_cases hquote : isQuote c = true
      · simp [step, LexMode.step, LexMode.afterCode, LexMode.isCode, hquote] at hcode
      · by_cases hslash : c = '/'
        · subst hslash
          rfl
        · simp [read, readCode, step, unfinished, LexMode.step, LexMode.afterCode,
            Lexeme.uncommented, Lexeme.text, hquote, hslash]
  | slash =>
      by_cases hmark : c = '/' ∨ c = '*'
      · rcases hmark with rfl | rfl <;> contradiction
      · rw [not_or] at hmark
        by_cases hquote : isQuote c = true
        · simp [step, LexMode.step, LexMode.afterCode, LexMode.isCode, hmark,
            hquote] at hcode
        · simp [read, readCode, step, unfinished, LexMode.step, LexMode.afterCode,
            Lexeme.uncommented, Lexeme.text, hquote, hmark]
  | quoted quote =>
      by_cases hbackslash : c = '\\'
      · simp [step, LexMode.step, LexMode.isCode, hbackslash] at hcode
      · by_cases hquote : c = quote
        · subst hquote
          simp [read, step, unfinished, LexMode.step, Lexeme.uncommented, Lexeme.text,
            hbackslash]
        · simp [step, LexMode.step, LexMode.isCode, hbackslash, hquote] at hcode
  | escaped quote => simp [step, LexMode.step, LexMode.isCode] at hcode
  | lineComment =>
      by_cases hfeed : c = '\n'
      · subst hfeed
        rfl
      · simp [step, LexMode.step, LexMode.isCode, hfeed] at hcode
  | blockComment | blockStar => exact (hblock (by simp [LexMode.InBlock])).elim

end LexemeReader

namespace Text

/-- The comma that a list without comments needs ahead of a new entry. -/
def separator (list : Text) : Text :=
  if list = [] ∨ list.getLast? = some ',' then [] else [',']

theorem uncommented_of_isPlain {p : Text}
    (h : ∀ c ∈ p, Reading.isPlain c = true) : p.uncommented = p := by
  have hlexemes := lexemes_append_of_isPlain [] h
  have hnil : Text.lexemes [] = [] := rfl
  rw [List.append_nil, hnil, List.append_nil] at hlexemes
  rw [uncommented, hlexemes, List.flatMap_map]
  exact List.flatMap_singleton' p

theorem uncommented_append {s : Text} (t : Text)
    (hcode : (LexMode.code.run s).isCode = true)
    (hslash : LexMode.code.run s = .slash →
      t.head? ≠ some '/' ∧ t.head? ≠ some '*') :
    (s ++ t).uncommented = s.uncommented ++ t.uncommented := by
  rw [uncommented, lexemes_append_of_isCode t hcode hslash, List.flatMap_append,
    uncommented, uncommented]

theorem uncommented_append_comma {a : Text} (t : Text)
    (hcode : (LexMode.code.run a).isCode = true) :
    (a ++ ',' :: t).uncommented = a.uncommented ++ ',' :: t.uncommented := by
  rw [uncommented, lexemes_append_comma t hcode, List.flatMap_append]
  rfl

theorem getLast?_uncommented_concat {s : Text} {c : Char}
    (hcode : (LexMode.code.run (s ++ [c])).isCode = true)
    (hblock : ¬ (LexMode.code.run s).InBlock) :
    (s ++ [c]).uncommented.getLast? = some c := by
  have hmode := LexemeReader.mode_run_start s
  have hnext := LexemeReader.mode_run_start (s ++ [c])
  rw [LexemeReader.run_append] at hnext
  rw [← hnext] at hcode
  rw [← hmode] at hblock
  have hlast := LexemeReader.getLast?_uncommented_lexemes hcode hblock
  rw [uncommented, lexemes_append_eq, List.flatMap_append,
    List.getLast?_append_of_ne_nil, hlast]
  intro hnil
  rw [hnil] at hlast
  contradiction

theorem Filler.run_append_newline {r b : Text} (hr : Filler r)
    (newline : Newline) (hb : Blank b) :
    LexMode.code.run (r ++ (newline.text ++ b)) = .code := by
  have hfeed : ∀ mode : LexMode, mode = .code ∨ mode = .lineComment →
      mode.run newline.text = .code := by
    rintro mode (rfl | rfl)
    · cases newline <;> rfl
    · cases newline <;> rfl
  rw [LexMode.run_append, LexMode.run_append, hfeed _ hr.run_eq, run_blank hb]

end Text

namespace ImportsList

variable {raw : Text} {n : ModuleName} {l : ImportsList} {entry : Text}

/-- Behind filler the new entry is the only thing that is left without
comments. -/
theorem uncommented_append_addition {r : Text} (l : ImportsList)
    (hentry : IsWord entry) (hr : Filler r) :
    (r ++ l.addition entry).uncommented =
      (r ++ l.blanksAhead).uncommented ++ entry ++ [','] ++ l.blanksBehind := by
  have hcode : LexMode.code.run (r ++ l.blanksAhead) = .code :=
    hr.run_append_newline _ l.blank_entryIndent
  have hplain : ∀ c ∈ entry ++ ',' :: l.blanksBehind, Reading.isPlain c = true := by
    intro c hmem
    rcases List.mem_append.1 hmem with hmem | hmem
    · exact Reading.isPlain_of_isWordChar (hentry.isWordChar c hmem)
    · rcases List.mem_cons.1 hmem with rfl | hmem
      · decide
      · exact Reading.isPlain_of_isBlank (l.blank_blanksBehind c hmem)
  rw [addition, ← List.append_assoc,
    uncommented_append _ (by rw [hcode]; rfl) (by rw [hcode]; intro h; contradiction),
    uncommented_of_isPlain hplain]
  simp

theorem blank_head?_addition {c : Char} (l : ImportsList) (entry : Text)
    (hc : (l.addition entry).head? = some c) : isBlank c = true := by
  rw [addition, List.head?_append_of_ne_nil _ l.blanksAhead_ne_nil] at hc
  exact l.blank_blanksAhead c (List.mem_of_head? hc)

/-- Where the place of the comma is code, without comments the new list has the
separator and the entry behind the old one. -/
theorem exists_uncommented_append_body (hentry : IsWord entry)
    (hblock : ¬ "/*".toList <:+: l.body)
    (hcode : ∀ a rest, l.body.trimRight.lastEntryCut? = some (a, rest) →
      (LexMode.code.run a).isCode = true) :
    ∃ w w', Blank w ∧ Blank w' ∧ (l.append entry).body.uncommented =
      l.body.uncommented.trimRight ++ separator l.body.uncommented.trimRight ++ w ++
        entry ++ [','] ++ w' := by
  have hsplit := trimRight_append_trailingBlanks l.body
  have hblanks := blank_trailingBlanks l.body
  cases hcut : l.body.trimRight.lastEntryCut? with
  | none =>
      have hfiller := filler_of_lastEntryCut?_eq_none hcut
      have hbody := (hfiller.append_blank hblanks).blank_uncommented
      rw [hsplit] at hbody
      refine ⟨_, _, (hfiller.append_blank l.blank_blanksAhead).blank_uncommented,
        l.blank_blanksBehind, ?_⟩
      have hnil : l.body.uncommented.trimRight = [] :=
        trimRight_append_of_blank [] hbody
      rw [append_body, separated_eq, hcut, hnil]
      simp only [separator, true_or, if_true, List.nil_append]
      exact uncommented_append_addition l hentry hfiller
  | some cut =>
      obtain ⟨a, rest⟩ := cut
      obtain ⟨happend, ⟨s, c, rfl, hc⟩, hfollows⟩ := lastEntryCut?_eq_some hcut
      have hends := hcode _ _ hcut
      have hfiller := filler_of_lastEntryCut?_eq_some hcut
      have hahead : s ++ [c] <+: l.body := by
        refine ⟨rest ++ l.body.trailingBlanks, ?_⟩
        rw [← List.append_assoc, ← happend, hsplit]
      have hlast := getLast?_uncommented_concat hends
        (LexMode.not_inBlock_run fun hmark =>
          hblock (hmark.trans ((List.prefix_append s [c]).trans hahead).isInfix))
      obtain ⟨v, hv⟩ := List.getLast?_eq_some_iff.1 hlast
      -- the end of the last entry's code is the end of the list without comments
      have hbody : l.body.uncommented.trimRight = v ++ [c] := by
        rw [← hsplit, happend, List.append_assoc, uncommented_append _ hends
          (hfollows.append_blank hblanks).ne_of_slash, hv,
          trimRight_append_of_blank _ (hfiller.append_blank hblanks).blank_uncommented,
          trimRight_concat_of_not_isBlank v hc]
      refine ⟨_, _, (hfiller.append_blank l.blank_blanksAhead).blank_uncommented,
        l.blank_blanksBehind, ?_⟩
      have hadded := uncommented_append_addition l hentry hfiller
      rw [append_body, separated_eq, hcut, hbody, separator]
      by_cases hcomma : c = ','
      · have hnew := uncommented_append (rest ++ l.addition entry) hends
          (hfollows.append fun d hd => l.blank_head?_addition entry hd).ne_of_slash
        subst hcomma
        simp only [List.getLast?_concat, if_true, or_true, List.append_nil]
        rw [happend, List.append_assoc, hnew, hv, hadded]
        simp
      · have hnew := uncommented_append_comma (rest ++ l.addition entry) hends
        have hne : (s ++ [c]).getLast? ≠ some ',' := by simpa using hcomma
        simp only [if_neg hne]
        rw [List.append_assoc, List.cons_append, hnew, hv, hadded]
        simp [hcomma]

end ImportsList

open ImportsList

variable {raw : Text} {n : ModuleName}

/-- Without its comments, a list in which no block comment opens and every string
ends on its line has one comma between two entries once a module is registered,
and its comments stay. -/
theorem exists_uncommented_bodyAfter_eq (hn : ModuleName.derive raw = .ok n)
    {t : Text} {l : ImportsList} (hfind : find? t = some l)
    (hblock : ¬ "/*".toList <:+: l.body) (hstrings : ∀ s ∈ l.body.strings, '\n' ∉ s)
    (hnew : l.body.hasWord n.moduleClass = false) :
    l.bodyAfter n = (l.append n.moduleClass).body ∧
      (∃ w w', Blank w ∧ Blank w' ∧ (l.bodyAfter n).uncommented =
        l.body.uncommented.trimRight ++ separator l.body.uncommented.trimRight ++ w ++
          n.moduleClass ++ [','] ++ w') ∧
      (l.bodyAfter n).comments.map trimRight = l.body.comments.map trimRight := by
  have hreadable := Readable.of_find? hfind
  have hclass := ModuleName.isWord_moduleClass hn
  have hlines : LineWise l.body.trimRight :=
    (lineWise_of_strings hblock hstrings).of_isPrefix (prefix_trimRight _)
  have hend := LexMode.not_inString_of_ends hreadable.mode_trimRight
  have hbody := bodyAfter_of_new hn hreadable hnew
  rw [hbody]
  refine ⟨rfl, exists_uncommented_append_body hclass hblock fun a rest hcut =>
    hlines.isCode_of_lastEntryCut? hend hcut, ?_⟩
  apply comments_append_body hreadable hclass
  intro a ha
  obtain ⟨rest, hcut, -⟩ := commaBehind_iff.1 ha
  exact hlines.isCode_of_lastEntryCut? hend hcut

/-- Slashes in a string begin no comment, and an apostrophe in a comment begins no
string. -/
theorem exists_uncommented_bodyAfter_eq_url :
    ∃ w w', Blank w ∧ Blank w' ∧
      (ImportsList.bodyAfter
        ⟨"", "imports: [", "\n  A('http://b') // it's\n  // c,\n\n", "]"⟩
        (.ofPascal "X")).uncommented =
      "\n  A('http://b')".toList ++ separator "\n  A('http://b')" ++ w ++
        "XModule".toList ++ [','] ++ w' := by
  have hn : ModuleName.derive "x" = .ok (.ofPascal "X") := by rfl
  have hfind : find? "imports: [\n  A('http://b') // it's\n  // c,\n\n]" =
      some ⟨"", "imports: [", "\n  A('http://b') // it's\n  // c,\n\n", "]"⟩ := by rfl
  exact (exists_uncommented_bodyAfter_eq hn hfind (by decide +kernel)
    (by decide +kernel) (by decide +kernel)).2.1

end ModuleScaffold
