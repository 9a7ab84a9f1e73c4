import ModuleScaffold.ModuleName
import ModuleScaffold.Proofs.Text.Words

/-!
# The spellings of a derived name

A name that was not refused is a capital and then letters and digits.  Its class
is therefore a single word, and the line that imports the class is one line that
holds neither a colon nor a bracket: it opens no list and closes none.
-/

namespace ModuleScaffold

/-- A fact about ASCII is checked code point by code point. -/
theorem forall_ascii {P : Char → Prop}
    (h : ∀ code < 128, P (Char.ofNat code)) (c : Char) (hc : c.toNat < 128) :
    P c := by
  have hcode := h c.toNat hc
  rwa [Char.ofNat_toNat] at hcode

theorem toNat_lt_of_isAlphanum {c : Char} (h : c.isAlphanum = true) :
    c.toNat < 128 := by
  have hranges : c.isAlphanum =
      (decide (c.val ≥ 65 ∧ c.val ≤ 90) || (c.val ≥ 97 && c.val ≤ 122) ||
        (c.val ≥ 48 && c.val ≤ 57)) := rfl
  have hval : c.val.toNat = c.toNat := rfl
  rw [hranges] at h
  simp only [Bool.or_eq_true, Bool.and_eq_true, decide_eq_true_eq, ge_iff_le,
    UInt32.le_iff_toNat_le, UInt32.reduceToNat, hval] at h
  omega

theorem isAlphanum_of_isAlpha {c : Char} (h : c.isAlpha = true) :
    c.isAlphanum = true := by
  have hparts : c.isAlphanum = (c.isAlpha || c.isDigit) := rfl
  rw [hparts, h, Bool.true_or]

theorem isAlphanum_of_isUpper {c : Char} (h : c.isUpper = true) :
    c.isAlphanum = true := by
  have hparts : c.isAlpha = (c.isUpper || c.isLower) := rfl
  exact isAlphanum_of_isAlpha (by rw [hparts, h, Bool.true_or])

theorem isWordChar_of_isAlphanum {c : Char} (h : c.isAlphanum = true) :
    isWordChar c = true := by
  rw [isWordChar, if_pos (toNat_lt_of_isAlphanum h), h]
  rfl

theorem isBlank_of_isAlphanum {c : Char} (h : c.isAlphanum = true) : isBlank c = false :=
  isBlank_of_isWordChar (isWordChar_of_isAlphanum h)

namespace Text

theorem lowerCaseAfter_eq_map {t : Text} (behind : Text)
    (h : ∀ c ∈ t, c.toNat < 128) :
    lowerCaseAfter behind t = t.map Char.toLower := by
  induction t generalizing behind with
  | nil => rfl
  | cons c t ih =>
      have hc : c.toNat < 128 := h c List.mem_cons_self
      have hsigma : c ≠ 'Σ' := by
        rintro rfl
        contradiction
      rw [lowerCaseAfter, ih _ fun d hmem => h d (List.mem_cons_of_mem c hmem)]
      simp [hsigma, ModuleScaffold.lowerCase, hc]

theorem mem_hyphenate {c : Char} {t : Text} (h : c ∈ hyphenate t) :
    c = '-' ∨ c ∈ t := by
  fun_induction hyphenate t <;> grind

/-- A trimmed text does not end in a line feed. -/
theorem dropLineFeed_of_trim {t rest : Text} {c : Char} (h : t.trim = c :: rest) :
    dropLineFeed rest = rest := by
  refine if_neg fun hlast => ?_
  obtain ⟨front, rfl⟩ := List.getLast?_eq_some_iff.1 hlast
  rcases trimRight_eq_nil_or_concat t.trimLeft with hnil | ⟨front', d, hconcat, hd⟩
  · rw [trim, hnil] at h
    contradiction
  · rw [trim, hconcat, ← List.cons_append] at h
    obtain rfl : d = '\n' := by simpa using List.append_inj_right' h rfl
    contradiction

theorem isIdentifier_of_trim_iff {t rest : Text} {c : Char} (h : t.trim = c :: rest) :
    isIdentifier (c :: rest) = true ↔
      c.isAlpha = true ∧ ∀ d ∈ rest, d.isAlphanum = true := by
  rw [isIdentifier, dropLineFeed_of_trim h, Bool.and_eq_true, List.all_eq_true]

end Text

namespace ModuleName

variable {raw : Text} {n : ModuleName}

/-- A name is accepted if it is a letter and then letters and digits, blanks around it
aside, and then its first letter becomes a capital. -/
theorem derive_eq_ok_iff :
    derive raw = .ok n ↔ ∃ first rest, raw.trim = first :: rest ∧
      first.isAlpha = true ∧ (∀ c ∈ rest, c.isAlphanum = true) ∧
        n = ofPascal (first.toUpper :: rest) := by
  unfold derive
  cases htrim : raw.trim with
  | nil => simp
  | cons first rest =>
      have hident : Text.isIdentifier (first :: rest) = true ↔
          first.isAlpha = true ∧ ∀ c ∈ rest, c.isAlphanum = true :=
        Text.isIdentifier_of_trim_iff htrim
      by_cases hname : Text.isIdentifier (first :: rest) = true
      · obtain ⟨hfirst, hrest⟩ := hident.1 hname
        have hascii : first.toNat < 128 :=
          toNat_lt_of_isAlphanum (isAlphanum_of_isAlpha hfirst)
        have hpascal : Text.pascalCase (first :: rest) = first.toUpper :: rest := by
          simp [Text.pascalCase, Text.capitalise, upperCase, hascii]
        simp only [reduceCtorEq, if_false, if_pos hname, hpascal]
        constructor
        · intro h
          exact ⟨first, rest, rfl, hfirst, hrest, (Except.ok.inj h).symm⟩
        · rintro ⟨_, _, heq, -, -, rfl⟩
          obtain ⟨rfl, rfl⟩ := List.cons.inj heq
          rfl
      · simp only [reduceCtorEq, if_false, if_neg hname, false_iff]
        rintro ⟨_, _, heq, hfirst, hrest, -⟩
        obtain ⟨rfl, rfl⟩ := List.cons.inj heq
        exact hname (hident.2 ⟨hfirst, hrest⟩)

theorem isUpper_toUpper {c : Char} (h : c.isAlpha = true) : c.toUpper.isUpper = true :=
  forall_ascii (P := fun c => c.isAlpha = true → c.toUpper.isUpper = true)
    (by decide +kernel) c (toNat_lt_of_isAlphanum (isAlphanum_of_isAlpha h)) h

theorem exists_of_derive (h : derive raw = .ok n) :
    ∃ first rest, first.isUpper = true ∧
      (∀ c ∈ rest, c.isAlphanum = true) ∧ n = ofPascal (first :: rest) := by
  obtain ⟨first, rest, -, hfirst, hrest, rfl⟩ := derive_eq_ok_iff.1 h
  exact ⟨first.toUpper, rest, isUpper_toUpper hfirst, hrest, rfl⟩

theorem isAlphanum_of_mem_pascal (h : derive raw = .ok n) :
    ∀ c ∈ n.pascal, c.isAlphanum = true := by
  obtain ⟨first, rest, hfirst, hrest, rfl⟩ := exists_of_derive h
  intro c hmem
  rcases List.mem_cons.1 hmem with rfl | hmem
  · exact isAlphanum_of_isUpper hfirst
  · exact hrest c hmem

theorem isAlphanum_of_mem_moduleClass (h : derive raw = .ok n) :
    ∀ c ∈ n.moduleClass, c.isAlphanum = true := by
  intro c hmem
  rcases List.mem_append.1 hmem with hpascal | hsuffix
  · exact isAlphanum_of_mem_pascal h c hpascal
  · have hall : "Module".toList.all Char.isAlphanum = true := by decide
    exact List.all_eq_true.1 hall c hsuffix

theorem isWord_moduleClass (h : derive raw = .ok n) :
    n.moduleClass.IsWord where
  ne_nil := by simp [moduleClass]
  isWordChar c hmem :=
    isWordChar_of_isAlphanum (isAlphanum_of_mem_moduleClass h c hmem)

theorem kebab_eq_map (h : derive raw = .ok n) :
    n.kebab = (Text.hyphenate n.pascal).map Char.toLower := by
  obtain ⟨first, rest, -, -, hn⟩ := exists_of_derive h
  have hkebab : n.kebab = n.pascal.kebabCase := by rw [hn]; rfl
  rw [hkebab]
  apply Text.lowerCaseAfter_eq_map
  intro c hmem
  rcases Text.mem_hyphenate hmem with rfl | hpascal
  · decide
  · exact toNat_lt_of_isAlphanum (isAlphanum_of_mem_pascal h c hpascal)

/-- Whether a code point can stand in an import line. -/
def isImportChar (c : Char) : Bool :=
  c.isAlphanum || [' ', '\x7b', '\x7d', '\x27', '.', '/', '-', ';'].contains c

theorem isImportChar_of_isAlphanum {c : Char} (h : c.isAlphanum = true) :
    isImportChar c = true := by
  rw [isImportChar, h, Bool.true_or]

theorem isAlphanum_of_mem_kebab (h : derive raw = .ok n) :
    ∀ c ∈ n.kebab, c = '-' ∨ c.isAlphanum = true := by
  intro c hmem
  rw [kebab_eq_map h] at hmem
  obtain ⟨d, hd, rfl⟩ := List.mem_map.1 hmem
  rcases Text.mem_hyphenate hd with rfl | hpascal
  · exact .inl (by decide)
  · have halphanum := isAlphanum_of_mem_pascal h d hpascal
    exact .inr (forall_ascii
      (P := fun d => d.isAlphanum = true → d.toLower.isAlphanum = true)
      (by decide +kernel) d (toNat_lt_of_isAlphanum halphanum) halphanum)

theorem isImportChar_of_mem_kebab (h : derive raw = .ok n) :
    ∀ c ∈ n.kebab, isImportChar c = true := by
  intro c hmem
  rcases isAlphanum_of_mem_kebab h c hmem with rfl | halphanum
  · decide
  · exact isImportChar_of_isAlphanum halphanum

theorem kebab_ne_nil (h : derive raw = .ok n) : n.kebab ≠ [] := by
  obtain ⟨first, rest, -, -, hn⟩ := exists_of_derive h
  have hpascal : n.pascal = first :: rest := by rw [hn]; rfl
  rw [kebab_eq_map h, hpascal]
  cases rest with
  | nil => simp [Text.hyphenate]
  | cons second rest =>
      rw [Text.hyphenate]
      split <;> simp

theorem isImportChar_of_mem_importLine (h : derive raw = .ok n) :
    ∀ c ∈ n.importLine, isImportChar c = true := by
  have hclass : ∀ c ∈ n.moduleClass, isImportChar c = true := fun c hmem =>
    isImportChar_of_isAlphanum (isAlphanum_of_mem_moduleClass h c hmem)
  have hkebab := isImportChar_of_mem_kebab h
  have hwords : ∀ words ∈ ["import \x7b ", " \x7d from './", "/", ".module';"],
      ∀ c ∈ words.toList, isImportChar c = true := by
    have hall : ["import \x7b ", " \x7d from './", "/", ".module';"].all
        (fun words => words.toList.all isImportChar) = true := by decide +kernel
    intro words hmem
    exact List.all_eq_true.1 (List.all_eq_true.1 hall words hmem)
  simp only [List.forall_mem_cons] at hwords
  obtain ⟨himport, hfrom, hslash, hmodule, -⟩ := hwords
  have happend : ∀ {s t : Text}, (∀ c ∈ s, isImportChar c = true) →
      (∀ c ∈ t, isImportChar c = true) → ∀ c ∈ s ++ t, isImportChar c = true :=
    fun hs ht => List.forall_mem_append.2 ⟨hs, ht⟩
  exact happend (happend (happend (happend (happend (happend himport hclass)
    hfrom) hkebab) hslash) hkebab) hmodule

theorem not_mem_importLine (h : derive raw = .ok n) {c : Char}
    (hc : isImportChar c = false) : c ∉ n.importLine := by
  intro hmem
  rw [isImportChar_of_mem_importLine h c hmem] at hc
  contradiction

theorem isLineBreak_of_mem_importLine (h : derive raw = .ok n) :
    ∀ c ∈ n.importLine, isLineBreak c = false := by
  intro c hmem
  have hchar := isImportChar_of_mem_importLine h c hmem
  have hascii : c.toNat < 128 := by
    rw [isImportChar, Bool.or_eq_true, List.contains_iff_mem] at hchar
    rcases hchar with halphanum | hmark
    · exact toNat_lt_of_isAlphanum halphanum
    · have hall : [' ', '\x7b', '\x7d', '\x27', '.', '/', '-', ';'].all
          (fun d => d.toNat < 128) = true := by decide
      simpa using List.all_eq_true.1 hall c hmark
  exact forall_ascii
    (P := fun d => isImportChar d = true → isLineBreak d = false)
    (by decide +kernel) c hascii hchar

/-- What follows the class in an import line. -/
def importPath (n : ModuleName) : Text :=
  "\x7d from './" ++ n.kebab ++ "/" ++ n.kebab ++ ".module'"

/-- The class stands between two spaces, and a semicolon ends the line. -/
theorem importLine_eq (n : ModuleName) :
    n.importLine =
      "import \x7b".toList ++ ' ' :: (n.moduleClass ++ ' ' :: (n.importPath ++ [';'])) := by
  have hopening : "import \x7b ".toList = "import \x7b".toList ++ [' '] := by simp
  have hfrom : " \x7d from './".toList = ' ' :: "\x7d from './".toList := by simp
  have hclosing : ".module';".toList = ".module'".toList ++ [';'] := by simp
  have hparts : ∀ {a b c d a' b' d' : Text}, a = a' ++ [' '] → b = ' ' :: b' →
      d = d' ++ [';'] →
      a ++ n.moduleClass ++ b ++ n.kebab ++ c ++ n.kebab ++ d =
        a' ++ ' ' :: (n.moduleClass ++
          ' ' :: (b' ++ n.kebab ++ c ++ n.kebab ++ d' ++ [';'])) := by
    rintro a b c d a' b' d' rfl rfl rfl
    simp
  exact hparts hopening hfrom hclosing

theorem importLine_eq_concat (n : ModuleName) :
    ∃ s, n.importLine = s ++ [';'] := by
  refine ⟨"import \x7b".toList ++ ' ' :: (n.moduleClass ++ ' ' :: n.importPath), ?_⟩
  rw [importLine_eq]
  simp only [List.append_assoc, List.cons_append]

theorem trim_importLine (n : ModuleName) : n.importLine.trim = n.importLine := by
  have hleft : n.importLine.trimLeft = n.importLine := by
    rw [importLine_eq]
    have hopening : "import \x7b".toList = 'i' :: "mport \x7b".toList := by simp
    rw [hopening, List.cons_append]
    exact Text.trimLeft_cons_of_not_isBlank _ (by decide)
  obtain ⟨s, hs⟩ := importLine_eq_concat n
  rw [Text.trim, hleft, hs]
  exact Text.trimRight_concat_of_not_isBlank s (by decide)

theorem importLine_ne_nil (n : ModuleName) : n.importLine ≠ [] := by
  obtain ⟨s, hs⟩ := importLine_eq_concat n
  simp [hs]

theorem hasLine_importLine (h : derive raw = .ok n) (line : Text) :
    n.importLine.hasLine line = true ↔ n.importLine = line := by
  rw [Text.hasLine_iff, Text.lines_eq_singleton n.importLine_ne_nil
    (isLineBreak_of_mem_importLine h)]
  simp [trim_importLine]

theorem brace_mem_importLine (n : ModuleName) : '\x7b' ∈ n.importLine := by
  have hopening : '\x7b' ∈ "import \x7b".toList := by simp
  rw [importLine_eq]
  exact List.mem_append_left _ hopening

theorem countLine_importLine_self (h : derive raw = .ok n) :
    n.importLine.countLine n.importLine = 1 := by
  rw [Text.countLine, Text.lines_eq_singleton n.importLine_ne_nil
    (isLineBreak_of_mem_importLine h)]
  simp [trim_importLine]

/-- A text with an import line on top has the lines it had, and that one. -/
theorem countLine_importLine_append (n : ModuleName) (newline : Newline)
    (t line : Text) :
    (n.importLine ++ newline.text ++ t).countLine line =
      n.importLine.countLine line + t.countLine line := by
  obtain ⟨s, hs⟩ := importLine_eq_concat n
  have hcut : (s ++ ';' :: (newline.text ++ t)).countLine line =
      (s ++ [';']).countLine line + t.countLine line :=
    Text.countLine_concat_newline_append newline s t (by decide)
  rw [hs, ← hcut]
  simp

theorem hasLine_importLine_append (n : ModuleName) (newline : Newline)
    (t line : Text) :
    (n.importLine ++ newline.text ++ t).hasLine line =
      (n.importLine.hasLine line || t.hasLine line) := by
  simp only [Text.hasLine_eq_decide, countLine_importLine_append,
    Nat.add_pos_iff_pos_or_pos, Bool.decide_or]

theorem hasWord_of_hasLine_importLine (h : derive raw = .ok n) {t : Text}
    (hline : t.hasLine n.importLine = true) : t.hasWord n.moduleClass = true := by
  have hword := isWord_moduleClass h
  obtain ⟨a, b, rfl⟩ := Text.infix_of_hasLine hline
  have hparts : a ++ n.importLine ++ b =
      (a ++ "import \x7b".toList) ++
        ' ' :: (n.moduleClass ++ ' ' :: (n.importPath ++ [';'] ++ b)) := by
    rw [importLine_eq]
    simp only [List.append_assoc, List.cons_append]
  rw [hparts, Text.hasWord_append_cons _ _ hword (by decide),
    Text.hasWord_append_cons _ _ hword (by decide),
    (Text.hasWord_isWord_iff hword hword).2 rfl]
  simp

theorem eq_of_pascal_eq {raw' : Text} {n' : ModuleName} (h : derive raw = .ok n)
    (h' : derive raw' = .ok n') (heq : n.pascal = n'.pascal) : n = n' := by
  obtain ⟨first, rest, -, -, rfl⟩ := exists_of_derive h
  obtain ⟨first', rest', -, -, rfl⟩ := exists_of_derive h'
  exact congrArg ofPascal heq

theorem eq_of_moduleClass_eq {raw' : Text} {n' : ModuleName}
    (h : derive raw = .ok n) (h' : derive raw' = .ok n')
    (heq : n.moduleClass = n'.moduleClass) : n = n' :=
  eq_of_pascal_eq h h' (List.append_cancel_right heq)

theorem eq_of_importLine_eq {raw' : Text} {n' : ModuleName}
    (h : derive raw = .ok n) (h' : derive raw' = .ok n')
    (heq : n.importLine = n'.importLine) : n = n' := by
  apply eq_of_moduleClass_eq h h'
  rw [importLine_eq, importLine_eq] at heq
  have hrest := List.cons_injective (List.append_cancel_left heq)
  have htake := congrArg (List.takeWhile Char.isAlphanum) hrest
  rw [List.takeWhile_append_of_pos (isAlphanum_of_mem_moduleClass h),
    List.takeWhile_append_of_pos (isAlphanum_of_mem_moduleClass h')] at htake
  simpa using htake

end ModuleName

end ModuleScaffold
