import ModuleScaffold.Proofs.Aggregator.Reading

/-!
# The opening of a list

Whether an opening begins somewhere is decided within the opening: a change
behind the bracket neither moves the first opening of a text nor adds one ahead
of it.  Nor does a line on top of the text, if no opening can run across its
end.

A list that was found is thereby characterised by its parts, `Readable`, and an
edit of one part leaves the conditions on the others as they are.
-/

namespace ModuleScaffold

namespace ImportsList

open Text

/-- The word, a colon and a bracket, with blanks between them. -/
def IsOpening (opening : Text) : Prop :=
  ∃ b b' : Text, Blank b ∧ Blank b' ∧
    opening = "imports".toList ++ (b ++ ':' :: (b' ++ ['[']))

theorem blanksAnd?_eq_some_iff {c : Char} {t part rest : Text}
    (hc : isBlank c = false) :
    blanksAnd? c t = some (part, rest) ↔
      ∃ b, Blank b ∧ part = b ++ [c] ∧ t = b ++ c :: rest := by
  unfold blanksAnd?
  have hsplit : t.takeWhile isBlank ++ t.dropWhile isBlank = t :=
    List.takeWhile_append_dropWhile
  constructor
  · intro h
    cases hdrop : t.dropWhile isBlank with
    | nil => simp [hdrop] at h
    | cons d tail =>
        simp only [hdrop] at h
        split at h
        next hd =>
          simp only [Option.some.injEq, Prod.mk.injEq] at h
          obtain ⟨rfl, rfl⟩ := h
          refine ⟨t.takeWhile isBlank, blank_takeWhile t, rfl, ?_⟩
          rw [← hd, ← hdrop, hsplit]
        next => contradiction
  · rintro ⟨b, hb, rfl, rfl⟩
    rw [List.dropWhile_append_of_pos hb, List.takeWhile_append_of_pos hb]
    simp [hc]

theorem openingHere?_eq_some_iff {t opening rest : Text} :
    openingHere? t = some (opening, rest) ↔
      IsOpening opening ∧ t = opening ++ rest := by
  unfold openingHere? IsOpening
  constructor
  · intro h
    simp only [Option.bind_eq_bind, Option.bind_eq_some_iff, Prod.exists,
      Option.pure_def, Option.some.injEq, Prod.mk.injEq] at h
    obtain ⟨afterWord, hword, colon, afterColon, hcolon, bracket, rest', hbracket,
      rfl, rfl⟩ := h
    obtain rfl := afterPrefix?_eq_some_iff.1 hword
    obtain ⟨b, hb, rfl, rfl⟩ := (blanksAnd?_eq_some_iff (by decide)).1 hcolon
    obtain ⟨b', hb', rfl, rfl⟩ := (blanksAnd?_eq_some_iff (by decide)).1 hbracket
    exact ⟨⟨b, b', hb, hb', by simp⟩, by simp⟩
  · rintro ⟨⟨b, b', hb, hb', rfl⟩, rfl⟩
    have hword : afterPrefix? "imports".toList
        ("imports".toList ++ (b ++ ':' :: (b' ++ ['['])) ++ rest) =
        some (b ++ ':' :: (b' ++ '[' :: rest)) :=
      afterPrefix?_eq_some_iff.2 (by simp)
    have hcolon : blanksAnd? ':' (b ++ ':' :: (b' ++ '[' :: rest)) =
        some (b ++ [':'], b' ++ '[' :: rest) :=
      (blanksAnd?_eq_some_iff (by decide)).2 ⟨b, hb, rfl, rfl⟩
    have hbracket : blanksAnd? '[' (b' ++ '[' :: rest) =
        some (b' ++ ['['], rest) :=
      (blanksAnd?_eq_some_iff (by decide)).2 ⟨b', hb', rfl, rfl⟩
    simp only [Option.bind_eq_bind, hword, hcolon, hbracket, Option.bind_some,
      Option.pure_def]
    simp

theorem IsOpening.eq_cons {opening : Text} (h : IsOpening opening) :
    ∃ rest, opening = 'i' :: rest := by
  obtain ⟨b, b', -, -, rfl⟩ := h
  have hword : "imports".toList = 'i' :: "mports".toList := by decide +kernel
  exact ⟨_, by rw [hword, List.cons_append]⟩

theorem IsOpening.eq_concat {opening : Text} (h : IsOpening opening) :
    ∃ s, opening = s ++ ['['] ∧ '[' ∉ s := by
  obtain ⟨b, b', hb, hb', rfl⟩ := h
  refine ⟨"imports".toList ++ (b ++ ':' :: b'), by simp, ?_⟩
  have hword : '[' ∉ "imports".toList := by decide +kernel
  simp only [List.mem_append, List.mem_cons, not_or]
  exact ⟨hword, hb.not_mem (by decide), by decide, hb'.not_mem (by decide)⟩

theorem IsOpening.colon_mem {opening : Text} (h : IsOpening opening) :
    ':' ∈ opening := by
  obtain ⟨b, b', -, -, rfl⟩ := h
  exact List.mem_append_right _ (List.mem_append_right _ List.mem_cons_self)

theorem IsOpening.semicolon_not_mem {opening : Text} (h : IsOpening opening) :
    ';' ∉ opening := by
  obtain ⟨b, b', hb, hb', rfl⟩ := h
  have hword : ';' ∉ "imports".toList := by decide +kernel
  simp only [List.mem_append, List.mem_cons, List.not_mem_nil, or_false, not_or]
  exact ⟨hword, hb.not_mem (by decide), by decide, hb'.not_mem (by decide),
    by decide⟩

/-- No opening begins ahead of a bracket if none ends there. -/
theorem openingHere?_eq_none_of_bracket {s rest : Text} (rest' : Text)
    (h : openingHere? (s ++ '[' :: rest) = none) :
    openingHere? (s ++ '[' :: rest') = none := by
  by_contra hfound
  obtain ⟨⟨opening, tail⟩, hsome⟩ := Option.ne_none_iff_exists'.1 hfound
  obtain ⟨hopening, hsplit⟩ := openingHere?_eq_some_iff.1 hsome
  have hlonger : s ++ ['['] ++ rest' = opening ++ tail := by
    rw [← hsplit, List.append_assoc, List.singleton_append]
  rcases List.append_eq_append_iff.1 hlonger with
    ⟨inner, hinner, -⟩ | ⟨inner, hinner, -⟩
  · -- the opening runs on behind the bracket, which then is its own
    obtain ⟨init, hinit, hnot⟩ := hopening.eq_concat
    rw [hinit] at hinner
    rcases List.eq_nil_or_concat' inner with rfl | ⟨inner, c, rfl⟩
    · rw [List.append_nil] at hinner
      rw [show s ++ '[' :: rest = opening ++ rest by
        rw [hinit, hinner, List.append_assoc, List.singleton_append],
        openingHere?_eq_some_iff.2 ⟨hopening, rfl⟩] at h
      contradiction
    · rw [← List.append_assoc] at hinner
      have hahead := (List.append_inj' hinner rfl).1
      exact hnot (by rw [hahead]; simp)
  · rw [show s ++ '[' :: rest = opening ++ (inner ++ rest) by
      rw [← List.append_assoc, ← hinner, List.append_assoc,
        List.singleton_append],
      openingHere?_eq_some_iff.2 ⟨hopening, rfl⟩] at h
    contradiction

theorem splitOpening?_cons (left : Option Char) (c : Char) (t : Text) :
    splitOpening? left (c :: t) =
      match (if left.any isWordChar then none else openingHere? (c :: t)) with
      | some (opening, rest) => some ([], opening, rest)
      | none =>
        (splitOpening? (some c) t).map fun (before, opening, rest) =>
          (c :: before, opening, rest) :=
  rfl

theorem splitOpening?_eq_some {left : Option Char}
    {t before opening rest : Text}
    (h : splitOpening? left t = some (before, opening, rest)) :
    t = before ++ opening ++ rest ∧ IsOpening opening := by
  induction t generalizing left before with
  | nil => simp [splitOpening?] at h
  | cons c t ih =>
      rw [splitOpening?_cons] at h
      split at h
      next opening' rest' hhere =>
        simp only [Option.some.injEq, Prod.mk.injEq] at h
        obtain ⟨rfl, rfl, rfl⟩ := h
        split at hhere
        · contradiction
        · obtain ⟨hopening, hsplit⟩ := openingHere?_eq_some_iff.1 hhere
          exact ⟨hsplit, hopening⟩
      next hhere =>
        rw [Option.map_eq_some_iff] at h
        obtain ⟨⟨before', opening', rest'⟩, hrest, heq⟩ := h
        simp only [Prod.mk.injEq] at heq
        obtain ⟨rfl, rfl, rfl⟩ := heq
        obtain ⟨rfl, hopening⟩ := ih hrest
        exact ⟨rfl, hopening⟩

/-- What follows the first opening has no part in its being the first. -/
theorem splitOpening?_of_rest {left : Option Char}
    {before opening rest : Text} (rest' : Text)
    (h : splitOpening? left (before ++ opening ++ rest) =
      some (before, opening, rest)) :
    splitOpening? left (before ++ opening ++ rest') =
      some (before, opening, rest') := by
  obtain ⟨-, hopening⟩ := splitOpening?_eq_some h
  induction before generalizing left with
  | nil =>
      obtain ⟨tail, htail⟩ := hopening.eq_cons
      have hhere : ∀ rest'', openingHere? ('i' :: (tail ++ rest'')) =
          some (opening, rest'') :=
        fun rest'' => openingHere?_eq_some_iff.2 ⟨hopening, by simp [htail]⟩
      have hcons : ∀ rest'', [] ++ opening ++ rest'' = 'i' :: (tail ++ rest'') := by
        simp [htail]
      rw [hcons, splitOpening?_cons] at h ⊢
      by_cases hleft : left.any isWordChar = true
      · simp [hleft] at h
      · simp only [hleft, Bool.false_eq_true, if_false, hhere]
  | cons c before ih =>
      rw [List.cons_append, List.cons_append, splitOpening?_cons] at h ⊢
      split at h
      next => simp at h
      next hhere =>
        simp only [Option.map_eq_some_iff, Prod.mk.injEq, List.cons.injEq,
          true_and, Prod.exists] at h
        obtain ⟨before', opening', rest'', hrest, rfl, rfl, rfl⟩ := h
        have hnone : (if left.any isWordChar = true then none else
            openingHere? (c :: (before' ++ opening' ++ rest'))) = none := by
          split at hhere
          next hleft => rw [if_pos hleft]
          next hleft =>
            obtain ⟨init, rfl, -⟩ := hopening.eq_concat
            have hbracket : ∀ tail, c :: (before' ++ (init ++ ['[']) ++ tail) =
                (c :: (before' ++ init)) ++ '[' :: tail := by
              simp
            rw [if_neg hleft, hbracket]
            apply openingHere?_eq_none_of_bracket rest'
            rw [← hbracket]
            exact hhere
        simp only [hnone, ih hrest, Option.map_some]

/-! ## A line on top -/

theorem splitOpening?_congr_left {left left' : Option Char} (t : Text)
    (h : left.any isWordChar = left'.any isWordChar) :
    splitOpening? left t = splitOpening? left' t := by
  cases t with
  | nil => rfl
  | cons c t => rw [splitOpening?_cons, splitOpening?_cons, h]

/-- Where no opening begins in a text on top, the search goes on behind it. -/
theorem splitOpening?_append {left : Option Char} {p : Text} (t : Text)
    (h : ∀ a s, p = a ++ s → s ≠ [] →
      (a.getLast?.or left).any isWordChar = false → openingHere? (s ++ t) = none) :
    splitOpening? left (p ++ t) =
      (splitOpening? (p.getLast?.or left) t).map fun (before, opening, rest) =>
        (p ++ before, opening, rest) := by
  induction p generalizing left with
  | nil => simp
  | cons c p ih =>
      have hhere : (if left.any isWordChar = true then none
          else openingHere? (c :: (p ++ t))) = none := by
        split
        · rfl
        next hleft => exact h [] (c :: p) rfl (List.cons_ne_nil c p) (by simpa using hleft)
      have htail : splitOpening? (some c) (p ++ t) =
          (splitOpening? (p.getLast?.or (some c)) t).map
            fun (before, opening, rest) => (p ++ before, opening, rest) := by
        refine ih fun a s hsplit hne hleft =>
          h (c :: a) s (congrArg (c :: ·) hsplit) hne ?_
        rw [List.getLast?_cons]
        cases hlast : a.getLast? <;> simpa [hlast] using hleft
      rw [List.cons_append, splitOpening?_cons, hhere, htail, List.getLast?_cons]
      cases p.getLast? <;> simp [Option.map_map, Function.comp_def]

/-- A text on top moves the list, if no opening begins in it and it ends in no
word. -/
theorem find?_append {p : Text} (t : Text) (hlast : p.getLast?.any isWordChar = false)
    (h : ∀ a s, p = a ++ s → s ≠ [] → a.getLast?.any isWordChar = false →
      openingHere? (s ++ t) = none) :
    find? (p ++ t) = (find? t).map fun l => { l with before := p ++ l.before } := by
  have hsplit : splitOpening? none (p ++ t) =
      (splitOpening? none t).map fun (before, opening, rest) =>
        (p ++ before, opening, rest) := by
    rw [splitOpening?_append t fun a s hsplit hne hleft =>
      h a s hsplit hne (by rwa [Option.or_none] at hleft), Option.or_none,
      splitOpening?_congr_left t (hlast.trans (Option.any_none ..).symm)]
  rw [find?, find?, hsplit]
  cases splitOpening? none t with
  | none => rfl
  | some parts =>
      obtain ⟨before, opening, rest⟩ := parts
      simp only [Option.map_some, Option.bind_eq_bind, Option.bind_some]
      cases splitClosing? .code 0 rest <;> rfl

/-- No opening begins in an import line or in the line break behind it. -/
theorem openingHere?_importLine_eq_none {raw : Text} {n : ModuleName}
    (hn : ModuleName.derive raw = .ok n) (newline : Newline) {s : Text}
    (t : Text) (hne : s ≠ []) (hs : s <:+ n.importLine ++ newline.text) :
    openingHere? (s ++ t) = none := by
  by_contra hfound
  obtain ⟨⟨opening, rest⟩, hsome⟩ := Option.ne_none_iff_exists'.1 hfound
  obtain ⟨hopening, hsplit⟩ := openingHere?_eq_some_iff.1 hsome
  have hcolon : ':' ∉ s := by
    intro hmem
    rcases List.mem_append.1 (hs.subset hmem) with hline | hbreak
    · exact ModuleName.not_mem_importLine hn (by decide) hline
    · exact (blank_newline newline).not_mem (by decide) hbreak
  rcases List.append_eq_append_iff.1 hsplit with
    ⟨inner, rfl, -⟩ | ⟨inner, rfl, -⟩
  · -- the opening runs through the end of the line
    obtain ⟨line, hline⟩ := ModuleName.importLine_eq_concat n
    rw [hline, List.append_assoc, List.singleton_append] at hs
    have hsemicolon : ';' ∉ s := fun hmem =>
      hopening.semicolon_not_mem (List.mem_append_left inner hmem)
    have hblank : s <:+ newline.text := by
      rcases List.suffix_or_suffix_of_suffix hs
        (List.suffix_append line (';' :: newline.text)) with hshort | hlong
      · rcases List.suffix_cons_iff.1 hshort with rfl | hshort
        · exact (hsemicolon List.mem_cons_self).elim
        · exact hshort
      · exact (hsemicolon (hlong.subset List.mem_cons_self)).elim
    obtain ⟨c, s, rfl⟩ := List.exists_cons_of_ne_nil hne
    obtain ⟨tail, htail⟩ := hopening.eq_cons
    obtain ⟨rfl, -⟩ := List.cons.inj htail
    exact (blank_newline newline).not_mem (by decide)
      (hblank.subset List.mem_cons_self)
  · exact hcolon (List.mem_append_left inner hopening.colon_mem)

/-- An import line on top moves the list of a text. -/
theorem find?_importLine_append {raw : Text} {n : ModuleName}
    (hn : ModuleName.derive raw = .ok n) (newline : Newline) (t : Text) :
    find? (n.importLine ++ newline.text ++ t) =
      (find? t).map fun l =>
        { l with before := n.importLine ++ newline.text ++ l.before } := by
  apply find?_append
  · have hlast : (n.importLine ++ newline.text).getLast? = some '\n' := by
      cases newline <;> simp [Newline.text]
    rw [hlast]
    rfl
  · intro a s hsplit hne _
    exact openingHere?_importLine_eq_none hn newline t hne ⟨a, hsplit.symm⟩

/-! ## A list that is found -/

/-- The parts of a list that is found in the text they make up. -/
structure Readable (l : ImportsList) : Prop where
  opens : ∀ rest, splitOpening? none (l.before ++ l.opening ++ rest) =
    some (l.before, l.opening, rest)
  closes : ∃ last, Reading.start.run? l.body = some last ∧ last.Closes
  after_head : l.after.head? = some ']'

theorem find?_eq_some_iff {t : Text} {l : ImportsList} :
    find? t = some l ↔ l.toText = t ∧ l.Readable := by
  constructor
  · intro h
    simp only [find?, Option.bind_eq_bind, Option.bind_eq_some_iff, Prod.exists,
      Option.pure_def, Option.some.injEq] at h
    obtain ⟨before, opening, rest, hopening, body, after, hclosing, rfl⟩ := h
    have hclosing' : splitClosing? Reading.start.mode Reading.start.depth rest =
        some (body, after) := hclosing
    obtain ⟨rfl, hhead, hlast⟩ := Reading.splitClosing?_eq_some_iff.1 hclosing'
    obtain ⟨rfl, -⟩ := splitOpening?_eq_some hopening
    refine ⟨by simp [toText], ?_, hlast, hhead⟩
    exact fun rest => splitOpening?_of_rest rest hopening
  · rintro ⟨rfl, hopens, hlast, hhead⟩
    have hclosing : splitClosing? Reading.start.mode Reading.start.depth
        (l.body ++ l.after) = some (l.body, l.after) :=
      Reading.splitClosing?_eq_some_iff.2 ⟨rfl, hhead, hlast⟩
    have hclosing' : splitClosing? .code 0 (l.body ++ l.after) =
        some (l.body, l.after) := hclosing
    rw [find?, toText, List.append_assoc, hopens]
    simp only [Option.bind_eq_bind, Option.bind_some, hclosing', Option.pure_def]

theorem Readable.find? {l : ImportsList} (h : l.Readable) :
    ImportsList.find? l.toText = some l :=
  find?_eq_some_iff.2 ⟨rfl, h⟩

theorem Readable.of_find? {t : Text} {l : ImportsList}
    (h : ImportsList.find? t = some l) : l.Readable :=
  (find?_eq_some_iff.1 h).2

theorem toText_of_find? {t : Text} {l : ImportsList}
    (h : ImportsList.find? t = some l) : l.toText = t :=
  (find?_eq_some_iff.1 h).1

/-- Another body that is read to the end makes another list. -/
theorem Readable.withBody {l : ImportsList} {body : Text} (h : l.Readable)
    (hbody : ∃ last, Reading.start.run? body = some last ∧ last.Closes) :
    { l with body }.Readable where
  opens := h.opens
  closes := hbody
  after_head := h.after_head

theorem Readable.exists_seams {l : ImportsList} (h : l.Readable) :
    ∃ s rest, l.opening = s ++ ['['] ∧ l.after = ']' :: rest := by
  obtain ⟨-, hopening⟩ := splitOpening?_eq_some (h.opens [])
  obtain ⟨s, hs, -⟩ := hopening.eq_concat
  cases hafter : l.after with
  | nil =>
      have hhead := h.after_head
      rw [hafter] at hhead
      contradiction
  | cons c rest =>
      have hhead := h.after_head
      rw [hafter, List.head?_cons, Option.some.injEq] at hhead
      exact ⟨s, rest, hs, by rw [hhead]⟩

end ImportsList

end ModuleScaffold
