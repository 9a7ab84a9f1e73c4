import ModuleScaffold.Proofs.Aggregator.ClosingBracket
import ModuleScaffold.Proofs.Aggregator.LineReading

/-!
# The body behind a registration

A registration leaves what stands from the closing bracket on as it was, and what
stands ahead of the body grows by the import line alone.  The body in between is
therefore read off the text that is returned, without a search for the list.

`CommaBehind` says where a comma went.  Where that place is code, the body
behind the registration has the lexemes it had, a comma among them, and those of
the new entry.
-/

namespace ModuleScaffold

open Text

namespace ImportsList

variable {raw : Text} {n : ModuleName} {l : ImportsList}

/-- What stands in the place of the body once a module is registered. -/
def bodyAfter (l : ImportsList) (n : ModuleName) : Text :=
  let content := (register n l.toText).content
  (content.take (content.length - l.after.length)).drop
    (l.bodyStart + importLength n l.toText)

theorem bodyAfter_eq (hn : ModuleName.derive raw = .ok n) (h : l.Readable) :
    l.bodyAfter n = (l.registered n).body := by
  have hcontent := (register_of_find?_some hn h.find?).1
  have hafter : (l.registered n).toText =
      ((l.registered n).before ++ (l.registered n).opening ++
        (l.registered n).body) ++ l.after := by
    rw [toText, after_registered]
  have hlength : (l.registered n).toText.length - l.after.length =
      ((l.registered n).before ++ (l.registered n).opening ++
        (l.registered n).body).length := by
    rw [hafter, List.length_append, Nat.add_sub_cancel]
  rw [bodyAfter, hcontent, hlength, hafter, List.take_left, ← bodyStart_registered,
    bodyStart, openingStart, ← List.length_append, List.drop_left]

theorem bodyAfter_of_hasWord (hn : ModuleName.derive raw = .ok n)
    (h : l.Readable) (hword : l.body.hasWord n.moduleClass = true) :
    l.bodyAfter n = l.body := by
  rw [bodyAfter_eq hn h, registered, if_pos hword, body_imported]

theorem bodyAfter_of_new (hn : ModuleName.derive raw = .ok n)
    (h : l.Readable) (hnew : l.body.hasWord n.moduleClass = false) :
    l.bodyAfter n = (l.append n.moduleClass).body := by
  rw [bodyAfter_eq hn h, registered, if_neg (by simp [hnew]),
    body_append_imported hn]

/-! ## The lexemes of the new body -/

def entryLexemes (entry : Text) : List Lexeme :=
  (entry ++ [',']).map .code

section Views

variable {α : Type} {f : Lexeme → List α} {entry : Text}

theorem Readable.isCode_run (h : l.Readable) :
    (LexMode.code.run l.body).isCode = true := by
  obtain ⟨last, hrun, hcode, -⟩ := h.closes
  rw [Reading.mode_of_run? hrun] at hcode
  exact hcode

/-- The trimmed body ends in code or in a line comment that its blanks end. -/
theorem Readable.mode_trimRight (h : l.Readable) :
    (LexMode.code.run l.body.trimRight).isCode = true ∨
      LexMode.code.run l.body.trimRight = .lineComment := by
  have hcode := h.isCode_run
  rw [← trimRight_append_trailingBlanks l.body] at hcode
  exact (isCode_or_lineComment_of_blank (blank_trailingBlanks l.body) hcode).imp_right
    And.left

theorem flatMap_lexemes_trimRight (hf : SkipsBlanks f) (h : l.Readable) :
    l.body.lexemes.flatMap f = l.body.trimRight.lexemes.flatMap f := by
  have hcode := h.isCode_run
  rw [← trimRight_append_trailingBlanks l.body] at hcode
  rw [← flatMap_lexemes_append_blank hf (blank_trailingBlanks l.body) hcode,
    trimRight_append_trailingBlanks]

/-- Behind code or a line comment, a new entry is read as code. -/
theorem flatMap_lexemes_append_addition (hf : SkipsBlanks f) {s : Text}
    (l : ImportsList) (hentry : IsWord entry)
    (hmode : (LexMode.code.run s).isCode = true ∨
      LexMode.code.run s = .lineComment) :
    (s ++ l.addition entry).lexemes.flatMap f =
      s.lexemes.flatMap f ++ (entryLexemes entry).flatMap f := by
  have hfeed : '\n' ∈ l.blanksAhead :=
    List.mem_append_left _ (mem_newline l.toText.newline)
  have hplain : ∀ c ∈ entry ++ [','], Reading.isPlain c = true := by
    intro c hmem
    rcases List.mem_append.1 hmem with hmem | hmem
    · exact Reading.isPlain_of_isWordChar (hentry.isWordChar c hmem)
    · rw [List.mem_singleton.1 hmem]
      decide
  have hnew : (entry ++ ',' :: l.blanksBehind).lexemes.flatMap f =
      (entryLexemes entry).flatMap f := by
    have hbehind := flatMap_lexemes_blank_append hf [] l.blank_blanksBehind
    rw [List.append_nil] at hbehind
    rw [List.append_cons, lexemes_append_of_isPlain _ hplain, List.flatMap_append,
      hbehind]
    exact List.append_nil _
  rw [addition, ← List.append_assoc,
    flatMap_lexemes_append_blank_append hf _ hmode l.blank_blanksAhead hfeed, hnew]

/-- Where no comma is put in, a new entry joins the lexemes of the body. -/
theorem flatMap_lexemes_append_body (hf : SkipsBlanks f) (h : l.Readable)
    (hentry : IsWord entry) (hnone : ∀ a, ¬ CommaBehind l.body.trimRight a) :
    (l.append entry).body.lexemes.flatMap f =
      l.body.lexemes.flatMap f ++ (entryLexemes entry).flatMap f := by
  rw [append_body, separated_eq_self hnone,
    flatMap_lexemes_append_addition hf l hentry h.mode_trimRight,
    flatMap_lexemes_trimRight hf h]

/-- Where the comma is put in code, it is one more lexeme, and the others stay. -/
theorem flatMap_lexemes_append_body_of_isCode (hf : SkipsBlanks f)
    (h : l.Readable) (hentry : IsWord entry) {a : Text}
    (ha : CommaBehind l.body.trimRight a)
    (hcode : (LexMode.code.run a).isCode = true) :
    ∃ u v, l.body.lexemes.flatMap f = u ++ v ∧
      (l.append entry).body.lexemes.flatMap f =
        u ++ (f (.code ',') ++ (v ++ (entryLexemes entry).flatMap f)) := by
  obtain ⟨rest, hcut, happend, hcomma, hfollows⟩ := ha.exists_cut
  have hmode := (filler_of_lastEntryCut?_eq_some hcut).run_eq.imp_left fun hrest =>
    congrArg LexMode.isCode hrest
  refine ⟨a.lexemes.flatMap f, rest.lexemes.flatMap f, ?_, ?_⟩
  · rw [flatMap_lexemes_trimRight hf h, happend,
      lexemes_append_of_isCode rest hcode hfollows.ne_of_slash, List.flatMap_append]
  · rw [append_body, hcomma, List.append_assoc, List.cons_append,
      lexemes_append_comma _ hcode, List.flatMap_append, List.flatMap_cons,
      flatMap_lexemes_append_addition hf l hentry hmode]

/-- What sees strings and comments alone sees no change, unless the comma goes
into one of them. -/
theorem flatMap_lexemes_append_body_eq (hf : SkipsBlanks f)
    (hskips : ∀ c, f (.code c) = []) (h : l.Readable) (hentry : IsWord entry)
    (hcomma : ∀ a, CommaBehind l.body.trimRight a →
      (LexMode.code.run a).isCode = true) :
    (l.append entry).body.lexemes.flatMap f = l.body.lexemes.flatMap f := by
  have hadded : (entryLexemes entry).flatMap f = [] := by
    simp [entryLexemes, List.flatMap_map, hskips]
  by_cases hinserts : ∃ a, CommaBehind l.body.trimRight a
  · obtain ⟨a, ha⟩ := hinserts
    obtain ⟨u, v, hbefore, hafter⟩ :=
      flatMap_lexemes_append_body_of_isCode hf h hentry ha (hcomma a ha)
    rw [hafter, hbefore, hskips, hadded, List.nil_append, List.append_nil]
  · rw [not_exists] at hinserts
    rw [flatMap_lexemes_append_body hf h hentry hinserts, hadded, List.append_nil]

end Views

end ImportsList

end ModuleScaffold
