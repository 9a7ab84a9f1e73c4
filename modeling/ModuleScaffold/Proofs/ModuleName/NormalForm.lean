import ModuleScaffold.Proofs.ModuleName.Spellings

/-!
# Two ways to type one name

The class and the variable spelling of a name are ways to type it: both derive the
name again.  What the two differ in, the case of the first letter, is all that is lost
of what was typed, besides the blanks around it.  So two texts give one name exactly if
nothing else tells them apart, and since an import line holds the class, it tells as
much as the name does.
-/

namespace ModuleScaffold

namespace Text

/-- Nothing but the case of their first letters tells two texts apart. -/
def SameButFirstCase (s t : Text) : Prop :=
  ∃ first first' rest, s = first :: rest ∧ t = first' :: rest ∧
    first.toLower = first'.toLower

theorem sameButFirstCase_cons_iff {c d : Char} {s t : Text} :
    SameButFirstCase (c :: s) (d :: t) ↔ c.toLower = d.toLower ∧ s = t := by
  constructor
  · rintro ⟨first, first', rest, hs, ht, hcase⟩
    obtain ⟨rfl, rfl⟩ := List.cons.inj hs
    obtain ⟨rfl, rfl⟩ := List.cons.inj ht
    exact ⟨hcase, rfl⟩
  · rintro ⟨hcase, rfl⟩
    exact ⟨c, d, s, rfl, rfl, hcase⟩

end Text

section Letters

variable {c d : Char}

/-- Letters are one capital exactly if they are one small letter. -/
theorem toUpper_eq_toUpper_iff (hc : c.isAlphanum = true) (hd : d.isAlphanum = true) :
    c.toUpper = d.toUpper ↔ c.toLower = d.toLower := by
  constructor
  · intro h
    rw [← toLower_toUpper hc, h, toLower_toUpper hd]
  · intro h
    rw [← toUpper_toLower hc, h, toUpper_toLower hd]

end Letters

namespace ModuleName

variable {raw raw' : Text} {n n' : ModuleName}

theorem derive_cons {first : Char} {rest : Text} (hfirst : first.isAlpha = true)
    (hrest : ∀ c ∈ rest, c.isAlphanum = true) :
    derive (first :: rest) = .ok (ofPascal (first.toUpper :: rest)) := by
  have htrim : Text.trim (first :: rest) = first :: rest := by
    apply Text.trim_eq_self
    rw [List.forall_mem_cons]
    exact ⟨isBlank_of_isAlphanum (isAlphanum_of_isAlpha hfirst),
      fun c hmem => isBlank_of_isAlphanum (hrest c hmem)⟩
  exact derive_eq_ok_iff.2 ⟨first, rest, htrim, hfirst, hrest, rfl⟩

theorem derive_pascal (h : derive raw = .ok n) : derive n.pascal = .ok n := by
  obtain ⟨first, rest, hfirst, hrest, rfl⟩ := exists_of_derive h
  have hagain := derive_cons (isAlpha_of_isUpper hfirst) hrest
  rwa [toUpper_of_isUpper hfirst] at hagain

theorem derive_camel (h : derive raw = .ok n) : derive n.camel = .ok n := by
  have hcamel := (spells_of_derive h).camel
  obtain ⟨first, rest, hfirst, hrest, rfl⟩ := exists_of_derive h
  have hsmall := isLower_toLower (isAlpha_of_isUpper hfirst)
  have hagain := derive_cons (isAlpha_of_isLower hsmall) hrest
  rw [toUpper_toLower (isAlphanum_of_isUpper hfirst), toUpper_of_isUpper hfirst] at hagain
  rw [hcamel]
  exact hagain

/-- Of what was typed, a name forgets the blanks around it and the case of its first
letter, and nothing else. -/
theorem eq_iff_sameButFirstCase (h : derive raw = .ok n) (h' : derive raw' = .ok n') :
    n = n' ↔ raw.trim.SameButFirstCase raw'.trim := by
  obtain ⟨first, rest, htrim, hfirst, -, rfl⟩ := derive_eq_ok_iff.1 h
  obtain ⟨first', rest', htrim', hfirst', -, rfl⟩ := derive_eq_ok_iff.1 h'
  have hclass : ofPascal (first.toUpper :: rest) = ofPascal (first'.toUpper :: rest') ↔
      first.toUpper :: rest = first'.toUpper :: rest' :=
    ⟨congrArg pascal, congrArg ofPascal⟩
  rw [hclass, List.cons.injEq, htrim, htrim', Text.sameButFirstCase_cons_iff,
    toUpper_eq_toUpper_iff (isAlphanum_of_isAlpha hfirst) (isAlphanum_of_isAlpha hfirst')]

/-- The class and the variable spelling of a name are derived as that name.  Two texts
derive the same exactly if, blanks around them aside, only the case of the first letter
tells them apart, and names with one import line are one name. -/
theorem derive_normalForm (h : derive raw = .ok n) :
    derive n.pascal = .ok n ∧ derive n.camel = .ok n ∧
      ∀ raw' n', derive raw' = .ok n' →
        (derive raw = derive raw' ↔ raw.trim.SameButFirstCase raw'.trim) ∧
          (n.importLine = n'.importLine → n = n') := by
  refine ⟨derive_pascal h, derive_camel h, fun raw' n' h' => ⟨?_, eq_of_importLine_eq h h'⟩⟩
  rw [h, h', Except.ok.injEq, eq_iff_sameButFirstCase h h']

/-- One name typed in three ways, and one that differs from it in a later capital. -/
theorem derive_normalForm_mediaUser :
    let n : ModuleName := ⟨"MediaUser", "mediaUser", "media-user"⟩
    let n' : ModuleName := ⟨"Mediauser", "mediauser", "mediauser"⟩
    derive "\t mediaUser\n" = .ok n ∧ derive "MediaUser" = .ok n ∧
      derive "mediaUser" = .ok n ∧
      (Text.trim "\t mediaUser\n").SameButFirstCase (Text.trim "MediaUser") ∧
      derive "Mediauser" = .ok n' ∧
      ¬ (Text.trim "\t mediaUser\n").SameButFirstCase (Text.trim "Mediauser") ∧
      n.importLine ≠ n'.importLine := by
  intro n n'
  have h : derive "\t mediaUser\n" = .ok n := by decide +kernel
  have h' : derive "Mediauser" = .ok n' := by decide +kernel
  have hne : n ≠ n' := by decide +kernel
  obtain ⟨hpascal, hcamel, hsame⟩ := derive_normalForm h
  obtain ⟨hcase, himport⟩ := hsame _ _ h'
  refine ⟨h, hpascal, hcamel, (hsame _ _ hpascal).1.1 (h.trans hpascal.symm), h',
    fun heq => ?_, mt himport hne⟩
  exact hne (Except.ok.inj ((h.symm.trans (hcase.2 heq)).trans h'))

end ModuleName

end ModuleScaffold
