import ModuleScaffold.Proofs.Aggregator.TornComment

/-!
# The class as an identifier of the list

A module is loaded if its class is an identifier in the code of the list.  The
search for the class sees words only: a word in a string or a comment counts for
it, and so does the end of a longer identifier behind a dollar sign.  A class
that it does not see is added in code, unless the comma ahead of it tears a
comment open.
-/

namespace ModuleScaffold

/-- Whether an identifier can hold a code point. -/
def isIdentifierChar (c : Char) : Bool :=
  isWordChar c || c == '$'

theorem isIdentifierChar_of_isBlank {c : Char} (h : isBlank c = true) :
    isIdentifierChar c = false := by
  have hdollar : c ≠ '$' := by
    rintro rfl
    contradiction
  simp [isIdentifierChar, isWordChar_of_isBlank h, hdollar]

namespace Text

variable {mode : LexMode} {word : Text}

/-- The text, which is read from `mode` on, holds `word` as a whole identifier
in code. -/
def HoldsIdentifier (mode : LexMode) (t word : Text) : Prop :=
  ∃ a b, t = a ++ word ++ b ∧ (mode.run a).isCode = true ∧
    a.getLast?.any isIdentifierChar = false ∧
    b.head?.any isIdentifierChar = false

theorem holdsIdentifier_iff_take_drop {t : Text} :
    (∃ k, k < t.length + 1 ∧ t = t.take k ++ word ++ t.drop (k + word.length) ∧
      (mode.run (t.take k)).isCode = true ∧
      (t.take k).getLast?.any isIdentifierChar = false ∧
      (t.drop (k + word.length)).head?.any isIdentifierChar = false) ↔
      HoldsIdentifier mode t word := by
  constructor
  · rintro ⟨k, -, hsplit, hcode, hleft, hright⟩
    exact ⟨t.take k, t.drop (k + word.length), hsplit, hcode, hleft, hright⟩
  · rintro ⟨a, b, rfl, hcode, hleft, hright⟩
    have htake : (a ++ word ++ b).take a.length = a := by simp
    have hdrop : (a ++ word ++ b).drop (a.length + word.length) = b := by simp
    refine ⟨a.length, by simp, ?_⟩
    rw [htake, hdrop]
    exact ⟨rfl, hcode, hleft, hright⟩

instance (mode : LexMode) (t word : Text) :
    Decidable (HoldsIdentifier mode t word) :=
  decidable_of_iff _ holdsIdentifier_iff_take_drop

theorem HoldsIdentifier.hasWord {t : Text} (hword : IsWord word)
    (h : HoldsIdentifier mode t word) : t.hasWord word = true := by
  have hweaken : ∀ {side : Option Char}, side.any isIdentifierChar = false →
      side.any isWordChar = false := by
    intro side hside
    cases side with
    | none => rfl
    | some c =>
        rw [Option.any_some, isIdentifierChar, Bool.or_eq_false_iff] at hside
        exact hside.1
  obtain ⟨a, b, rfl, -, hleft, hright⟩ := h
  exact (hasWord_iff hword).2 ⟨a, b, rfl, hweaken hleft, hweaken hright⟩

/-- Behind a mark identifiers are looked for from the mode on that the mark
leaves. -/
theorem holdsIdentifier_append_cons_iff {c : Char} (s t : Text)
    (hc : isIdentifierChar c = false) (hmem : c ∉ word) :
    HoldsIdentifier mode (s ++ c :: t) word ↔
      HoldsIdentifier mode s word ∨
        HoldsIdentifier (mode.run (s ++ [c])) t word := by
  have hrun : ∀ inner, mode.run (s ++ c :: inner) =
      (mode.run (s ++ [c])).run inner := by
    intro inner
    rw [← LexMode.run_append, List.append_assoc, List.singleton_append]
  constructor
  · rintro ⟨a, b, hsplit, hcode, hleft, hright⟩
    rcases occurrence_cases hmem hsplit with ⟨rest, hs, rfl⟩ | ⟨inner, rfl, ht⟩
    · rw [any_head?_append_cons _ _ hc] at hright
      exact Or.inl ⟨a, rest, hs, hcode, hleft, hright⟩
    · rw [hrun] at hcode
      rw [any_getLast?_append_cons _ _ hc] at hleft
      exact Or.inr ⟨inner, b, ht, hcode, hleft, hright⟩
  · rintro (⟨a, b, rfl, hcode, hleft, hright⟩ | ⟨a, b, rfl, hcode, hleft, hright⟩)
    · refine ⟨a, b ++ c :: t, by simp, hcode, hleft, ?_⟩
      rw [any_head?_append_cons _ _ hc, hright]
    · refine ⟨s ++ c :: a, b, by simp, by rwa [hrun], ?_, hright⟩
      rw [any_getLast?_append_cons _ _ hc, hleft]

end Text

namespace ImportsList

open Text

variable {l : ImportsList} {entry : Text}

/-- A new entry is an identifier of its list, unless the comma ahead of it tears
a comment open. -/
theorem holdsIdentifier_append_body (h : l.Readable)
    (hwhole : ∀ depth rest, ¬ l.TearsComment depth rest) :
    HoldsIdentifier .code (l.append entry).body entry := by
  have hmode : .code =
      LexMode.code.run (l.body.trimRight.separated ++ l.blanksAhead) :=
    Reading.mode_of_run? (run?_blanksAhead h hwhole)
  have hcomma : isIdentifierChar ',' = false := by decide
  refine ⟨l.body.trimRight.separated ++ l.blanksAhead, ',' :: l.blanksBehind, ?_,
    ?_, ?_, hcomma⟩
  · rw [append_body, addition]
    simp
  · rw [← hmode]
    rfl
  · obtain ⟨b, c, hblanks⟩ :=
      (List.eq_nil_or_concat' l.blanksAhead).resolve_left l.blanksAhead_ne_nil
    have hblank : isBlank c = true := l.blank_blanksAhead c (by simp [hblanks])
    rw [hblanks, ← List.append_assoc, List.getLast?_concat, Option.any_some]
    exact isIdentifierChar_of_isBlank hblank

/-- The torn comment ends ahead of the class, and the list behind it. -/
def HoldsBehindComma (l : ImportsList) (entry : Text) (depth : Nat)
    (rest : Text) : Prop :=
  ∃ body after, splitClosing? .blockComment depth (l.behindComma entry rest) =
      some (body, after) ∧
    HoldsIdentifier .blockComment body entry

/-- What a torn list holds behind the comma is all that counts. -/
theorem exists_find?_append_torn_holds_iff {depth : Nat} {rest : Text}
    (h : l.Readable) (htears : l.TearsComment depth rest)
    (hentry : IsWord entry) (hnew : l.body.hasWord entry = false) :
    (∃ l', find? (l.append entry).toText = some l' ∧
      HoldsIdentifier .code l'.body entry) ↔
      l.HoldsBehindComma entry depth rest := by
  obtain ⟨s, hbody, hmode, hfind⟩ := h.find?_append_torn htears entry
  have hahead : ¬ HoldsIdentifier .code (s ++ ['*']) entry := by
    intro hholds
    have hword := hholds.hasWord hentry
    rw [hasWord_append_cons s [] hentry (by decide)] at hword
    rw [hbody, hasWord_append_cons s _ hentry (by decide),
      Bool.or_eq_false_iff] at hnew
    rw [hnew.1] at hword
    contradiction
  have hparts : ∀ body, HoldsIdentifier .code (s ++ '*' :: ',' :: body) entry ↔
      HoldsIdentifier .blockComment body entry := by
    intro body
    have hlead : s ++ '*' :: ',' :: body = (s ++ ['*']) ++ ',' :: body := by simp
    rw [hlead, holdsIdentifier_append_cons_iff _ _ (by decide)
      (hentry.not_mem (by decide)), or_iff_right hahead,
      List.append_assoc, List.singleton_append, hmode]
  rw [hfind, HoldsBehindComma]
  constructor
  · rintro ⟨l', hmap, hholds⟩
    obtain ⟨⟨body, after⟩, hclosing, rfl⟩ := Option.map_eq_some_iff.1 hmap
    exact ⟨body, after, hclosing, (hparts body).1 hholds⟩
  · rintro ⟨body, after, hclosing, hholds⟩
    exact ⟨_, by rw [hclosing, Option.map_some], (hparts body).2 hholds⟩

/-- What becomes of the class in the list that was found. -/
theorem exists_find?_registered_holds_iff {raw : Text} {n : ModuleName}
    (hn : ModuleName.derive raw = .ok n) (h : l.Readable) :
    (∃ l', find? (l.registered n).toText = some l' ∧
      HoldsIdentifier .code l'.body n.moduleClass) ↔
      (l.body.hasWord n.moduleClass = true →
        HoldsIdentifier .code l.body n.moduleClass) ∧
      (l.body.hasWord n.moduleClass = false →
        ∀ depth rest, l.TearsComment depth rest →
          l.HoldsBehindComma n.moduleClass depth rest) := by
  have hplain : (∀ depth rest, ¬ l.TearsComment depth rest) →
      HoldsIdentifier .code ((l.imported n).append n.moduleClass).body
        n.moduleClass := by
    intro hwhole
    apply holdsIdentifier_append_body (h.imported hn)
    intro depth rest htears
    exact hwhole depth rest (tearsComment_imported_iff.1 htears)
  have htorn : l.body.hasWord n.moduleClass = false → ∀ depth rest,
      l.TearsComment depth rest →
      ((∃ l', find? ((l.imported n).append n.moduleClass).toText = some l' ∧
        HoldsIdentifier .code l'.body n.moduleClass) ↔
        l.HoldsBehindComma n.moduleClass depth rest) := by
    intro hnew depth rest htears
    rw [exists_find?_append_torn_holds_iff (h.imported hn)
      (tearsComment_imported_iff.2 htears) (ModuleName.isWord_moduleClass hn)
      (by rwa [body_imported]), HoldsBehindComma, behindComma_imported hn,
      ← HoldsBehindComma]
  rw [h.exists_find?_registered_iff hn fun body =>
    HoldsIdentifier .code body n.moduleClass]
  constructor
  · rintro ⟨hold, -, hcases⟩
    refine ⟨hold, fun hnew depth rest htears => ?_⟩
    exact (htorn hnew depth rest htears).1 (hcases hnew depth rest htears)
  · rintro ⟨hold, hcases⟩
    refine ⟨hold, fun _ hwhole => hplain hwhole, fun hnew depth rest htears => ?_⟩
    exact (htorn hnew depth rest htears).2 (hcases hnew depth rest htears)

end ImportsList

open Text ImportsList

variable {raw : Text} {n : ModuleName}

/-- If the registration reports the class as registered, the list of the text
holds it as an identifier. -/
def ReportsTruly (n : ModuleName) (t : Text) : Prop :=
  (register n t).outcome = .inserted ∨
      (register n t).outcome = .alreadyPresent →
    ∃ l, find? (register n t).content = some l ∧
      HoldsIdentifier .code l.body n.moduleClass

instance (n : ModuleName) (t : Text) : Decidable (ReportsTruly n t) :=
  decidable_of_iff
    ((register n t).outcome = .inserted ∨
        (register n t).outcome = .alreadyPresent →
      (find? (register n t).content).any
        (fun l => HoldsIdentifier .code l.body n.moduleClass) = true)
    (by simp only [ReportsTruly, Option.any_eq_true, decide_eq_true_eq])

theorem reportsTruly_of_find?_none (hn : ModuleName.derive raw = .ok n)
    {t : Text} (h : find? t = none) : ReportsTruly n t := by
  have houtcome := (register_of_find?_none hn h).2
  rintro (hreport | hreport)
  · rw [houtcome] at hreport
    contradiction
  · rw [houtcome] at hreport
    contradiction

theorem reportsTruly_iff_of_find?_some (hn : ModuleName.derive raw = .ok n)
    {t : Text} {l : ImportsList} (h : find? t = some l) :
    ReportsTruly n t ↔ ∃ l', find? (l.registered n).toText = some l' ∧
      HoldsIdentifier .code l'.body n.moduleClass := by
  obtain ⟨hcontent, houtcome⟩ := register_of_find?_some hn h
  have hreport : (register n t).outcome = .inserted ∨
      (register n t).outcome = .alreadyPresent := by
    rw [houtcome]
    split
    · exact Or.inr rfl
    · exact Or.inl rfl
  rw [ReportsTruly, hcontent]
  exact ⟨fun htruly => htruly hreport, fun hholds _ => hholds⟩

/-- The report is true exactly if the class, where the list has the word, is an
identifier there and, where a comment is torn open, is one behind it. -/
theorem reportsTruly_iff (hn : ModuleName.derive raw = .ok n) (t : Text) :
    ReportsTruly n t ↔ ∀ l, find? t = some l →
      (l.body.hasWord n.moduleClass = true →
        HoldsIdentifier .code l.body n.moduleClass) ∧
      (l.body.hasWord n.moduleClass = false →
        ∀ depth rest, l.TearsComment depth rest →
          l.HoldsBehindComma n.moduleClass depth rest) := by
  cases hfind : find? t with
  | none =>
      refine iff_of_true (reportsTruly_of_find?_none hn hfind) ?_
      intro l h
      contradiction
  | some l =>
      rw [reportsTruly_iff_of_find?_some hn hfind,
        exists_find?_registered_holds_iff hn (.of_find? hfind)]
      constructor
      · intro h l' hl'
        obtain rfl := Option.some.inj hl'
        exact h
      · intro h
        exact h l rfl

/-- A comment behind the torn one ends it, and the class is read as code. -/
theorem reportsTruly_of_later_comment :
    ReportsTruly (.ofPascal "X") "imports: [A /* x *// 2 /* y */\n]" := by
  have hn : ModuleName.derive "x" = .ok (.ofPascal "X") := by rfl
  apply (reportsTruly_iff hn _).2
  intro l hfind
  have hlist : find? "imports: [A /* x *// 2 /* y */\n]" =
      some ⟨"", "imports: [", "A /* x *// 2 /* y */\n", "]"⟩ := by rfl
  obtain rfl := Option.some.inj (hlist.symm.trans hfind)
  refine ⟨by decide +kernel, fun _ depth rest htears => ?_⟩
  have hcut : TearsComment
      ⟨"", "imports: [", "A /* x *// 2 /* y */\n", "]"⟩ 0 "// 2 /* y */" :=
    ⟨"A /* x *", by decide +kernel, by decide +kernel, by decide +kernel⟩
  obtain ⟨rfl, rfl⟩ := hcut.unique htears
  exact ⟨"// 2 /* y */\n  XModule,\n", "]", by decide +kernel, by decide +kernel⟩

/-- The report is false of a class in a comment, of one behind a dollar sign and
of one that is added where a comment was torn open. -/
theorem not_reportsTruly :
    ModuleName.derive "x" = .ok (.ofPascal "X") ∧
      ¬ ReportsTruly (.ofPascal "X") "imports: [\n  // XModule\n]" ∧
      ¬ ReportsTruly (.ofPascal "X") "imports: [$XModule]" ∧
      ¬ ReportsTruly (.ofPascal "X") "imports: [A /* x *// 2\n]" :=
  ⟨by rfl, by decide +kernel, by decide +kernel, by decide +kernel⟩

end ModuleScaffold
