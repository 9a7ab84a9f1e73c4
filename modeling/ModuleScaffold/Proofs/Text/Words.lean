import ModuleScaffold.Proofs.Text.Lines

/-!
# Words of a text that is put together

An occurrence of a word is whole when no word character stands next to it.  A
code point that is no word character therefore parts a text into two in which
words are looked for and counted separately: an insertion of blanks and punctuation
neither makes nor destroys a word.
-/

namespace ModuleScaffold

namespace Text

/-- Whether a text is a word of its own: word characters and nothing else. -/
structure IsWord (word : Text) : Prop where
  ne_nil : word ≠ []
  isWordChar : ∀ c ∈ word, isWordChar c = true

variable {word : Text}

theorem IsWord.not_mem {c : Char} (hword : IsWord word)
    (hc : ModuleScaffold.isWordChar c = false) : c ∉ word := by
  intro hmem
  rw [hword.isWordChar c hmem] at hc
  contradiction

theorem IsWord.getLast?_any (hword : IsWord word) :
    word.getLast?.any ModuleScaffold.isWordChar = true := by
  rw [List.getLast?_eq_some_getLast hword.ne_nil]
  exact hword.isWordChar _ (List.getLast_mem hword.ne_nil)

theorem beginsWithWord_iff {left : Option Char} {t : Text}
    (hword : IsWord word) :
    beginsWithWord word left t = true ↔
      ∃ b, t = word ++ b ∧ left.any isWordChar = false ∧
        b.head?.any isWordChar = false := by
  unfold beginsWithWord
  cases hafter : afterPrefix? word t with
  | none =>
      refine iff_of_false (by simp) ?_
      rintro ⟨b, ht, -⟩
      rw [afterPrefix?_eq_some_iff.2 ht] at hafter
      contradiction
  | some rest =>
      have ht := afterPrefix?_eq_some_iff.1 hafter
      have hhead : t.head?.any isWordChar = true := by
        obtain ⟨c, tail, rfl⟩ := List.exists_cons_of_ne_nil hword.ne_nil
        rw [ht]
        exact hword.isWordChar c List.mem_cons_self
      simp only [isWordBoundary, hhead, hword.getLast?_any, Bool.bne_true,
        Bool.true_bne, Bool.and_eq_true, Bool.not_eq_true']
      constructor
      · rintro ⟨hleft, hright⟩
        exact ⟨rest, ht, hleft, hright⟩
      · rintro ⟨b, hb, hleft, hright⟩
        obtain rfl := List.append_cancel_left (ht.symm.trans hb)
        exact ⟨hleft, hright⟩

theorem hasWordFrom_iff {left : Option Char} {t : Text} (hword : IsWord word) :
    hasWordFrom word left t = true ↔
      ∃ a b, t = a ++ word ++ b ∧ (a.getLast?.or left).any isWordChar = false ∧
        b.head?.any isWordChar = false := by
  induction t generalizing left with
  | nil =>
      refine iff_of_false (by simp [hasWordFrom]) ?_
      rintro ⟨a, b, hsplit, -⟩
      simp only [List.nil_eq, List.append_eq_nil_iff] at hsplit
      exact hword.ne_nil hsplit.1.2
  | cons c rest ih =>
      rw [hasWordFrom, Bool.or_eq_true, beginsWithWord_iff hword, ih]
      constructor
      · rintro (⟨b, hsplit, hleft, hright⟩ | ⟨a, b, hsplit, hleft, hright⟩)
        · exact ⟨[], b, hsplit, hleft, hright⟩
        · refine ⟨c :: a, b, by simp [hsplit], ?_, hright⟩
          rw [List.getLast?_cons]
          cases hlast : a.getLast? <;> simpa [hlast] using hleft
      · rintro ⟨a, b, hsplit, hleft, hright⟩
        cases a with
        | nil => exact Or.inl ⟨b, hsplit, hleft, hright⟩
        | cons d a =>
            obtain ⟨rfl, hrest⟩ := List.cons.inj hsplit
            refine Or.inr ⟨a, b, hrest, ?_, hright⟩
            rw [List.getLast?_cons] at hleft
            cases hlast : a.getLast? <;> simpa [hlast] using hleft

theorem hasWord_iff {t : Text} (hword : IsWord word) :
    t.hasWord word = true ↔
      ∃ a b, t = a ++ word ++ b ∧ a.getLast?.any isWordChar = false ∧
        b.head?.any isWordChar = false := by
  simp [hasWord, hasWordFrom_iff hword]

theorem hasWord_eq_false_of_not_mem {c : Char} {t : Text} (hword : IsWord word)
    (hc : c ∈ word) (ht : c ∉ t) : t.hasWord word = false := by
  by_contra h
  obtain ⟨a, b, rfl, -⟩ := (hasWord_iff hword).1 (by simpa using h)
  exact ht (by simp [hc])

theorem hasWord_eq_false_of_blank {t : Text} (hword : IsWord word)
    (ht : Blank t) : t.hasWord word = false := by
  have hmem := List.head_mem hword.ne_nil
  apply hasWord_eq_false_of_not_mem hword hmem
  exact ht.not_mem (isBlank_of_isWordChar (hword.isWordChar _ hmem))

/-- An occurrence of a text without a mark lies ahead of the mark or behind
it. -/
theorem occurrence_cases {c : Char} {a b s t : Text} (hmem : c ∉ word)
    (h : s ++ c :: t = a ++ word ++ b) :
    (∃ rest, s = a ++ word ++ rest ∧ b = rest ++ c :: t) ∨
      ∃ inner, a = s ++ c :: inner ∧ t = inner ++ word ++ b := by
  rcases List.append_eq_append_iff.1 h.symm with
    ⟨rest, hs, hb⟩ | ⟨rest, hs, ht⟩
  · exact Or.inl ⟨rest, hs, hb⟩
  · cases rest with
    | nil => exact Or.inl ⟨[], by simpa using hs.symm, by simpa using ht.symm⟩
    | cons d rest =>
        obtain ⟨rfl, rfl⟩ := List.cons.inj ht
        rcases List.append_eq_append_iff.1 hs with
          ⟨inner, -, hinner⟩ | ⟨inner, rfl, hinner⟩
        · exact (hmem (by simp [hinner])).elim
        · cases inner with
          | nil =>
              obtain rfl : c :: rest = word := hinner
              exact (hmem List.mem_cons_self).elim
          | cons e inner =>
              obtain ⟨rfl, rfl⟩ := List.cons.inj hinner
              exact Or.inr ⟨inner, rfl, rfl⟩

/-- A mark at the end counts as the end, for a property it lacks. -/
theorem any_head?_append_cons {p : Char → Bool} {c : Char} (s t : Text)
    (hc : p c = false) : (s ++ c :: t).head?.any p = s.head?.any p := by
  cases s with
  | nil => exact hc
  | cons d s => rfl

theorem any_getLast?_append_cons {p : Char → Bool} {c : Char} (s t : Text)
    (hc : p c = false) : (s ++ c :: t).getLast?.any p = t.getLast?.any p := by
  rw [List.getLast?_append, List.getLast?_cons]
  cases t.getLast? with
  | none => exact hc
  | some d => rfl

/-! ## The number of occurrences -/

theorem hasWordFrom_eq_decide (word : Text) (left : Option Char) (t : Text) :
    hasWordFrom word left t = decide (0 < countWordFrom word left t) := by
  induction t generalizing left with
  | nil => rfl
  | cons c rest ih =>
      rw [hasWordFrom, countWordFrom, ih]
      cases beginsWithWord word left (c :: rest) <;> simp

/-- A text holds a word if the word occurs in it at all. -/
theorem hasWord_eq_decide (t word : Text) :
    t.hasWord word = decide (0 < t.countWord word) :=
  hasWordFrom_eq_decide word none t

theorem hasWord_eq_false_iff {t : Text} :
    t.hasWord word = false ↔ t.countWord word = 0 := by
  rw [hasWord_eq_decide, decide_eq_false_iff_not, Nat.pos_iff_ne_zero, not_not]

theorem countWordFrom_cons (left : Option Char) (c : Char) (rest : Text) :
    countWordFrom word left (c :: rest) =
      countWordFrom word (some c) rest +
        (if beginsWithWord word left (c :: rest) then 1 else 0) :=
  rfl

theorem beginsWithWord_congr_left {left left' : Option Char} (t : Text)
    (h : left.any isWordChar = left'.any isWordChar) :
    beginsWithWord word left t = beginsWithWord word left' t := by
  simp only [beginsWithWord, isWordBoundary, h]

theorem countWordFrom_congr_left {left left' : Option Char} (t : Text)
    (h : left.any isWordChar = left'.any isWordChar) :
    countWordFrom word left t = countWordFrom word left' t := by
  cases t with
  | nil => rfl
  | cons c rest =>
      rw [countWordFrom_cons, countWordFrom_cons, beginsWithWord_congr_left _ h]

theorem beginsWithWord_nil (hword : IsWord word) (left : Option Char) :
    beginsWithWord word left [] = false := by
  by_contra h
  obtain ⟨b, hsplit, -⟩ := (beginsWithWord_iff hword).1 (by simpa using h)
  exact hword.ne_nil (List.append_eq_nil_iff.1 hsplit.symm).1

/-- What stands behind a mark has no part in an occurrence ahead of it. -/
theorem beginsWithWord_append_cons {c : Char} (left : Option Char) (s t : Text)
    (hword : IsWord word) (hc : isWordChar c = false) :
    beginsWithWord word left (s ++ c :: t) = beginsWithWord word left s := by
  rw [Bool.eq_iff_iff, beginsWithWord_iff hword, beginsWithWord_iff hword]
  constructor
  · rintro ⟨b, hsplit, hleft, hright⟩
    have hoccurs : s ++ c :: t = [] ++ word ++ b := hsplit
    rcases occurrence_cases (hword.not_mem hc) hoccurs with
      ⟨rest, hs, rfl⟩ | ⟨inner, hnil, -⟩
    · rw [any_head?_append_cons _ _ hc] at hright
      exact ⟨rest, hs, hleft, hright⟩
    · simp at hnil
  · rintro ⟨b, rfl, hleft, hright⟩
    refine ⟨b ++ c :: t, by simp, hleft, ?_⟩
    rwa [any_head?_append_cons _ _ hc]

theorem countWordFrom_append_cons {c : Char} (left : Option Char) (s t : Text)
    (hword : IsWord word) (hc : isWordChar c = false) :
    countWordFrom word left (s ++ c :: t) =
      countWordFrom word left s + t.countWord word := by
  induction s generalizing left with
  | nil =>
      have hhere := beginsWithWord_append_cons left [] t hword hc
      rw [beginsWithWord_nil hword] at hhere
      have hmark : (some c).any isWordChar = (none : Option Char).any isWordChar := hc
      rw [List.nil_append] at hhere ⊢
      rw [countWordFrom_cons, hhere, countWordFrom_congr_left t hmark]
      simp [countWordFrom, countWord]
  | cons d s ih =>
      have hhere := beginsWithWord_append_cons left (d :: s) t hword hc
      rw [List.cons_append] at hhere ⊢
      rw [countWordFrom_cons, countWordFrom_cons, hhere, ih]
      omega

/-- Words are counted separately on the two sides of a mark. -/
theorem countWord_append_cons {c : Char} (s t : Text) (hword : IsWord word)
    (hc : isWordChar c = false) :
    (s ++ c :: t).countWord word = s.countWord word + t.countWord word :=
  countWordFrom_append_cons none s t hword hc

theorem countWord_cons {c : Char} (t : Text) (hword : IsWord word)
    (hc : isWordChar c = false) : countWord (c :: t) word = t.countWord word := by
  have happend := countWord_append_cons [] t hword hc
  rwa [List.nil_append, show countWord [] word = 0 from rfl, Nat.zero_add] at happend

theorem countWord_eq_zero_of_blank {t : Text} (hword : IsWord word)
    (ht : Blank t) : t.countWord word = 0 :=
  hasWord_eq_false_iff.1 (hasWord_eq_false_of_blank hword ht)

theorem countWord_blank_append {b : Text} (t : Text) (hword : IsWord word)
    (hb : Blank b) : (b ++ t).countWord word = t.countWord word := by
  induction b with
  | nil => rfl
  | cons c b ih =>
      rw [List.cons_append, countWord_cons _ hword (isWordChar_of_isBlank hb.head),
        ih hb.tail]

theorem countWord_append_blank_append {b : Text} (s t : Text)
    (hword : IsWord word) (hb : Blank b) (hne : b ≠ []) :
    (s ++ b ++ t).countWord word = s.countWord word + t.countWord word := by
  obtain ⟨c, b, rfl⟩ := List.exists_cons_of_ne_nil hne
  rw [List.append_assoc, List.cons_append,
    countWord_append_cons s _ hword (isWordChar_of_isBlank hb.head),
    countWord_blank_append t hword hb.tail]

theorem countWord_append_blank {b : Text} (t : Text) (hword : IsWord word)
    (hb : Blank b) : (t ++ b).countWord word = t.countWord word := by
  cases b with
  | nil => rw [List.append_nil]
  | cons c b =>
      rw [countWord_append_cons t b hword (isWordChar_of_isBlank hb.head),
        countWord_eq_zero_of_blank hword hb.tail, Nat.add_zero]

/-- A mark ahead of something that is no word character is not seen. -/
theorem countWord_insert {c : Char} (s t : Text) (hword : IsWord word)
    (hc : isWordChar c = false) (ht : t.head?.any isWordChar = false) :
    (s ++ c :: t).countWord word = (s ++ t).countWord word := by
  rw [countWord_append_cons s t hword hc]
  cases t with
  | nil => simp [countWord, countWordFrom]
  | cons d t =>
      have hd : isWordChar d = false := by simpa using ht
      rw [countWord_append_cons s t hword hd, countWord_cons t hword hd]

theorem countWordFrom_eq_zero_of_length_lt {left : Option Char} {t : Text}
    (hword : IsWord word) (h : t.length < word.length) :
    countWordFrom word left t = 0 := by
  have hnone : hasWordFrom word left t = false := by
    by_contra hoccurs
    obtain ⟨a, b, rfl, -⟩ := (hasWordFrom_iff hword).1 (by simpa using hoccurs)
    simp only [List.length_append] at h
    omega
  rw [hasWordFrom_eq_decide] at hnone
  simpa using hnone

/-! ## Whether a word occurs -/

/-- Words are looked for separately on the two sides of a mark. -/
theorem hasWord_append_cons {c : Char} (s t : Text) (hword : IsWord word)
    (hc : isWordChar c = false) :
    (s ++ c :: t).hasWord word = (s.hasWord word || t.hasWord word) := by
  simp only [hasWord_eq_decide, countWord_append_cons s t hword hc,
    Nat.add_pos_iff_pos_or_pos, Bool.decide_or]

theorem hasWord_cons {c : Char} (t : Text) (hword : IsWord word)
    (hc : isWordChar c = false) : hasWord (c :: t) word = t.hasWord word :=
  hasWord_append_cons [] t hword hc

theorem hasWord_append_blank {b : Text} (t : Text) (hword : IsWord word)
    (hb : Blank b) : (t ++ b).hasWord word = t.hasWord word := by
  rw [hasWord_eq_decide, hasWord_eq_decide, countWord_append_blank t hword hb]

theorem hasWord_append_blank_append {b : Text} (s t : Text)
    (hword : IsWord word) (hb : Blank b) (hne : b ≠ []) :
    (s ++ b ++ t).hasWord word = (s.hasWord word || t.hasWord word) := by
  simp only [hasWord_eq_decide, countWord_append_blank_append s t hword hb hne,
    Nat.add_pos_iff_pos_or_pos, Bool.decide_or]

theorem hasWord_isWord_iff {t : Text} (hword : IsWord word) (ht : IsWord t) :
    t.hasWord word = true ↔ t = word := by
  rw [hasWord_iff hword]
  constructor
  · rintro ⟨a, b, rfl, hleft, hright⟩
    obtain rfl : a = [] := by
      by_contra hne
      rw [List.getLast?_eq_some_getLast hne, Option.any_some,
        ht.isWordChar _ (by simp [List.getLast_mem hne])] at hleft
      contradiction
    obtain rfl : b = [] := by
      by_contra hne
      rw [List.head?_eq_some_head hne, Option.any_some,
        ht.isWordChar _ (by simp [List.head_mem hne])] at hright
      contradiction
    simp
  · rintro rfl
    exact ⟨[], [], by simp, rfl, rfl⟩

/-- A word occurs in itself, once, and in no other word. -/
theorem countWord_isWord {t : Text} (hword : IsWord word) (ht : IsWord t) :
    t.countWord word = if t = word then 1 else 0 := by
  split
  next heq =>
    subst heq
    obtain ⟨c, rest, rfl⟩ := List.exists_cons_of_ne_nil hword.ne_nil
    have hhere : beginsWithWord (c :: rest) none (c :: rest) = true :=
      (beginsWithWord_iff hword).2 ⟨[], by simp, rfl, rfl⟩
    rw [countWord, countWordFrom, hhere,
      countWordFrom_eq_zero_of_length_lt hword (by simp)]
    rfl
  next hne =>
    rw [← hasWord_eq_false_iff]
    by_contra h
    exact hne ((hasWord_isWord_iff hword ht).1 (by simpa using h))

end Text

end ModuleScaffold
