import ModuleScaffold.Text.Word
import ModuleScaffold.Text.Line
import Mathlib.Data.List.TakeWhile
import Mathlib.Tactic

/-!
# Trimming

What trimming keeps.  A trimmed text is empty or ends in a code point that is
not blank, and the blanks that were set apart come back when the trimmed text is
followed by blanks again.  Blanks end lines and words, but belong to no word.
-/

namespace ModuleScaffold

theorem isBlank_of_isLineBreak {c : Char} (h : isLineBreak c = true) :
    isBlank c = true := by
  simp only [isLineBreak, isBlank, Bool.or_eq_true, Bool.and_eq_true,
    decide_eq_true_eq, beq_iff_eq] at h ⊢
  omega

theorem isLineBreak_of_not_isBlank {c : Char} (h : isBlank c = false) :
    isLineBreak c = false := by
  by_contra hbreak
  rw [isBlank_of_isLineBreak (by simpa using hbreak)] at h
  contradiction

theorem isWordChar_of_isBlank {c : Char} (h : isBlank c = true) :
    isWordChar c = false := by
  have hascii : ∀ n < 128, isBlank (Char.ofNat n) = true →
      isWordChar (Char.ofNat n) = false := by decide +kernel
  by_cases hlow : c.toNat < 128
  · have hchar := hascii c.toNat hlow
    rw [Char.ofNat_toNat] at hchar
    exact hchar h
  · have htable : ∀ n ∈ [0x85, 0xA0, 0x1680, 0x2000, 0x2001, 0x2002, 0x2003,
        0x2004, 0x2005, 0x2006, 0x2007, 0x2008, 0x2009, 0x200A, 0x2028, 0x2029,
        0x202F, 0x205F, 0x3000],
        (CodePoints.lettersAndNumbers.any fun range =>
          range.1 ≤ n && n ≤ range.2) = false := by decide +kernel
    have hmem := htable c.toNat (by
      simp only [isBlank, Bool.or_eq_true, Bool.and_eq_true, decide_eq_true_eq,
        beq_iff_eq] at h
      simp only [List.mem_cons, List.not_mem_nil, or_false]
      omega)
    rw [isWordChar, if_neg hlow]
    exact hmem

theorem isBlank_of_isWordChar {c : Char} (h : isWordChar c = true) :
    isBlank c = false := by
  by_contra hblank
  rw [isWordChar_of_isBlank (by simpa using hblank)] at h
  contradiction

namespace Text

/-- Whether a text holds blanks only. -/
def Blank (t : Text) : Prop :=
  ∀ c ∈ t, isBlank c = true

theorem Blank.not_mem {c : Char} {t : Text} (h : Blank t)
    (hc : isBlank c = false) : c ∉ t := by
  intro hmem
  rw [h c hmem] at hc
  contradiction

theorem Blank.append {s t : Text} (hs : Blank s) (ht : Blank t) :
    Blank (s ++ t) := by
  intro c hmem
  rcases List.mem_append.1 hmem with hleft | hright
  · exact hs c hleft
  · exact ht c hright

theorem Blank.tail {c : Char} {t : Text} (h : Blank (c :: t)) : Blank t :=
  fun d hmem => h d (List.mem_cons_of_mem c hmem)

theorem Blank.head {c : Char} {t : Text} (h : Blank (c :: t)) :
    isBlank c = true :=
  h c List.mem_cons_self

theorem blank_takeWhile (t : Text) : Blank (t.takeWhile isBlank) :=
  fun _ hmem => List.mem_takeWhile_imp hmem

theorem blank_trailingBlanks (t : Text) : Blank (trailingBlanks t) := by
  intro c hmem
  rw [trailingBlanks, List.mem_reverse] at hmem
  exact blank_takeWhile t.reverse c hmem

theorem trimRight_eq_nil_or_concat (t : Text) :
    trimRight t = [] ∨
      ∃ s c, trimRight t = s ++ [c] ∧ isBlank c = false := by
  unfold trimRight
  cases hdrop : t.reverse.dropWhile isBlank with
  | nil => exact Or.inl rfl
  | cons c rest =>
      refine Or.inr ⟨rest.reverse, c, by simp, ?_⟩
      have hhead := List.head?_dropWhile_not isBlank t.reverse
      rw [hdrop] at hhead
      simpa using hhead

theorem trimRight_append_of_blank {b : Text} (t : Text) (h : Blank b) :
    trimRight (t ++ b) = trimRight t := by
  unfold trimRight
  rw [List.reverse_append, List.dropWhile_append_of_pos]
  intro c hmem
  exact h c (List.mem_reverse.1 hmem)

/-- Trimming goes no further than a code point that is not blank. -/
theorem trimRight_append_cons {c : Char} (s t : Text) (hc : isBlank c = false) :
    trimRight (s ++ c :: t) = s ++ c :: trimRight t := by
  rcases trimRight_eq_nil_or_concat t with hnil | ⟨u, d, hu, hd⟩
  · have hblank : Blank t := by
      have hsplit := trimRight_append_trailingBlanks t
      rw [hnil, List.nil_append] at hsplit
      rw [← hsplit]
      exact blank_trailingBlanks t
    rw [hnil, List.append_cons, trimRight_append_of_blank _ hblank,
      trimRight_concat_of_not_isBlank s hc]
  · have hsplit : s ++ c :: t = (s ++ c :: u) ++ [d] ++ trailingBlanks t := by
      rw [← trimRight_append_trailingBlanks t, hu]
      simp [trimRight_append_trailingBlanks, ← hu]
    rw [hsplit, trimRight_append_of_blank _ (blank_trailingBlanks t),
      trimRight_concat_of_not_isBlank _ hd, hu]
    simp

theorem trailingBlanks_concat_of_isBlank {c : Char} (t : Text)
    (h : isBlank c = true) : trailingBlanks (t ++ [c]) = trailingBlanks t ++ [c] := by
  simp [trailingBlanks, h]

theorem trailingBlanks_concat_append {c : Char} {b : Text} (s : Text)
    (hc : isBlank c = false) (hb : Blank b) :
    trailingBlanks (s ++ [c] ++ b) = b := by
  have hsplit := trimRight_append_trailingBlanks (s ++ [c] ++ b)
  rw [trimRight_append_of_blank _ hb,
    trimRight_concat_of_not_isBlank s hc] at hsplit
  exact List.append_cancel_left hsplit

theorem trimLeft_suffix (t : Text) : trimLeft t <:+ t :=
  List.dropWhile_suffix isBlank

theorem mem_trim {c : Char} {t : Text} (hmem : c ∈ t)
    (hc : isBlank c = false) : c ∈ trim t := by
  have hleft : c ∈ trimLeft t := by
    have hsplit : t.takeWhile isBlank ++ trimLeft t = t :=
      List.takeWhile_append_dropWhile
    rw [← hsplit] at hmem
    exact (List.mem_append.1 hmem).resolve_left ((blank_takeWhile t).not_mem hc)
  have hsplit := trimRight_append_trailingBlanks (trimLeft t)
  rw [← hsplit] at hleft
  exact (List.mem_append.1 hleft).resolve_right
    ((blank_trailingBlanks _).not_mem hc)

theorem trim_isInfix (t : Text) : trim t <:+: t :=
  (prefix_trimRight (trimLeft t)).isInfix.trans (trimLeft_suffix t).isInfix

theorem trimLeft_cons_of_not_isBlank {c : Char} (t : Text)
    (hc : isBlank c = false) : trimLeft (c :: t) = c :: t := by
  simp [trimLeft, hc]

theorem trim_eq_self {t : Text} (h : ∀ c ∈ t, isBlank c = false) : t.trim = t := by
  have hleft : t.trimLeft = t := by
    cases t with
    | nil => rfl
    | cons c t => exact trimLeft_cons_of_not_isBlank t (h c List.mem_cons_self)
  rw [trim, hleft]
  rcases List.eq_nil_or_concat' t with rfl | ⟨init, c, rfl⟩
  · rfl
  · exact trimRight_concat_of_not_isBlank init (h c (by simp))

theorem trim_append_of_blank {b : Text} (t : Text) (hb : Blank b) :
    trim (t ++ b) = trim t := by
  unfold trim
  by_cases ht : Blank t
  · have hleft : trimLeft (t ++ b) = [] :=
      List.dropWhile_eq_nil_iff.2 (ht.append hb)
    have hright : trimLeft t = [] := List.dropWhile_eq_nil_iff.2 ht
    rw [hleft, hright]
  · have hleft : trimLeft (t ++ b) = trimLeft t ++ b := by
      unfold trimLeft
      rw [List.dropWhile_append, if_neg]
      rw [List.isEmpty_iff, List.dropWhile_eq_nil_iff]
      exact ht
    rw [hleft, trimRight_append_of_blank _ hb]

end Text

end ModuleScaffold
