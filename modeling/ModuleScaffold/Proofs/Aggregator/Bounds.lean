import ModuleScaffold.Proofs.Aggregator.CodeState
import ModuleScaffold.Proofs.Aggregator.Opening

/-!
# Where a list begins and ends

The bounds of a list are fixed by two searches that know nothing of each other.
The first looks for the leftmost opening in the raw text.  The second looks at
the text behind it, of which every code point is code or is not, and takes the
first closing bracket of code that has as many opening as closing brackets of
code ahead of it.

`bounds?_eq_some_iff` says that the list is found between exactly these bounds.
What follows the closing bracket has no part in either search.
-/

namespace ModuleScaffold

namespace Text

/-- The code point at a position of a text is `c`, and it is code. -/
def CodeAt (t : Text) (c : Char) (i : Nat) : Prop :=
  t[i]? = some c ∧ EndsInCode (t.take i)

instance (t : Text) (c : Char) (i : Nat) : Decidable (CodeAt t c i) :=
  inferInstanceAs (Decidable (_ ∧ _))

/-- How often `c` occurs in the code of a text. -/
def codeCount (t : Text) (c : Char) : Nat :=
  (List.range t.length).countP fun i => CodeAt t c i

/-- At this position stands a closing bracket of code, and the brackets of code
ahead of it are as many opening as closing ones. -/
def ClosesAt (t : Text) (e : Nat) : Prop :=
  CodeAt t ']' e ∧ codeCount (t.take e) '[' = codeCount (t.take e) ']'

instance (t : Text) (e : Nat) : Decidable (ClosesAt t e) :=
  inferInstanceAs (Decidable (_ ∧ _))

theorem codeAt_append_left {s : Text} {i : Nat} (t : Text) (c : Char)
    (hi : i < s.length) : CodeAt (s ++ t) c i ↔ CodeAt s c i := by
  rw [CodeAt, CodeAt, List.getElem?_append_left hi,
    List.take_append_of_le_length hi.le]

theorem codeAt_length_iff (s t : Text) (c : Char) :
    CodeAt (s ++ t) c s.length ↔ t.head? = some c ∧ EndsInCode s := by
  rw [CodeAt, List.getElem?_append_right le_rfl, Nat.sub_self,
    List.take_left, List.head?_eq_getElem?]

theorem codeCount_concat (s : Text) (c d : Char) :
    codeCount (s ++ [d]) c =
      codeCount s c + if d = c ∧ EndsInCode s then 1 else 0 := by
  have hahead : (List.range s.length).countP (fun i => CodeAt (s ++ [d]) c i) =
      codeCount s c := by
    apply List.countP_congr
    intro i hi
    rw [decide_eq_true_iff, decide_eq_true_iff]
    exact codeAt_append_left [d] c (List.mem_range.1 hi)
  have hlast : CodeAt (s ++ [d]) c s.length ↔ d = c ∧ EndsInCode s := by
    simpa using codeAt_length_iff s [d] c
  rw [codeCount, List.length_append, List.length_singleton, List.range_succ,
    List.countP_append, hahead]
  simp [List.countP_cons, hlast]

theorem closesAt_append_left {s : Text} {i : Nat} (t : Text)
    (hi : i < s.length) : ClosesAt (s ++ t) i ↔ ClosesAt s i := by
  rw [ClosesAt, ClosesAt, codeAt_append_left t _ hi,
    List.take_append_of_le_length hi.le]

theorem closesAt_length_iff (s t : Text) :
    ClosesAt (s ++ t) s.length ↔ t.head? = some ']' ∧ EndsInCode s ∧
      codeCount s '[' = codeCount s ']' := by
  rw [ClosesAt, codeAt_length_iff, List.take_left, and_assoc]

end Text

namespace Reading

open Text LexMode

/-- The depth is changed by brackets of code and by nothing else. -/
theorem depth_of_step? {r next : Reading} {c : Char}
    (h : r.step? c = some next) :
    next.depth + (if c = ']' ∧ r.mode.isCode = true then 1 else 0) =
      r.depth + if c = '[' ∧ r.mode.isCode = true then 1 else 0 := by
  have hopen : ¬ (r.Closes ∧ c = ']') := by
    intro hcloses
    rw [step?_eq_none_iff.2 hcloses] at h
    contradiction
  rw [step?, if_neg (by simpa [Closes, and_right_comm] using hopen)] at h
  have hdepth := congrArg Reading.depth (Option.some.inj h)
  by_cases hcode : r.mode.isCode = true
  · by_cases hclose : c = ']'
    · have hpos : r.depth ≠ 0 := fun hzero => hopen ⟨⟨hcode, hzero⟩, hclose⟩
      simp [hcode, hclose] at hdepth ⊢
      omega
    · by_cases hbracket : c = '['
      · simp [hcode, hbracket] at hdepth ⊢
        omega
      · simp [hcode, hclose, hbracket] at hdepth ⊢
        omega
  · simp [hcode] at hdepth ⊢
    omega

/-- The brackets of code are counted by the depth, and none of them closes the
list. -/
theorem codeCount_of_run? {s : Text} {r : Reading}
    (h : start.run? s = some r) :
    codeCount s '[' = codeCount s ']' + r.depth ∧
      ∀ i < s.length, ¬ ClosesAt s i := by
  -- from the right, since both the count and the mode belong to what was read
  induction s using List.reverseRecOn generalizing r with
  | nil =>
      have hr : r = start := (Option.some.inj h).symm
      subst hr
      exact ⟨rfl, fun i hi => by contradiction⟩
  | append_singleton s c ih =>
      rw [run?_append, Option.bind_eq_some_iff] at h
      obtain ⟨next, hnext, hstep⟩ := h
      rw [run?_cons, Option.bind_eq_some_iff] at hstep
      obtain ⟨last, hlast, hsame⟩ := hstep
      rw [run?_nil, Option.some.injEq] at hsame
      subst hsame
      obtain ⟨hcount, hopen⟩ := ih hnext
      have hcode : EndsInCode s ↔ next.mode.isCode = true := by
        rw [endsInCode_iff, mode_of_run? hnext]
        rfl
      have hdepth := depth_of_step? hlast
      constructor
      · simp only [codeCount_concat, hcode]
        omega
      · intro i hi hcloses
        rw [List.length_append, List.length_singleton] at hi
        by_cases hahead : i < s.length
        · exact hopen i hahead ((closesAt_append_left [c] hahead).1 hcloses)
        · have hend : i = s.length := by omega
          rw [hend, closesAt_length_iff] at hcloses
          have hzero : next.depth = 0 := by omega
          have hnone : next.step? c = none :=
            step?_eq_none_iff.2 ⟨⟨hcode.1 hcloses.2.1, hzero⟩, by simpa using hcloses.1⟩
          rw [hnone] at hlast
          contradiction

theorem exists_closesAt_of_run?_eq_none {s : Text}
    (h : start.run? s = none) : ∃ i < s.length, ClosesAt s i := by
  induction s using List.reverseRecOn with
  | nil => contradiction
  | append_singleton s c ih =>
      cases hrun : start.run? s with
      | none =>
          obtain ⟨i, hi, hcloses⟩ := ih hrun
          refine ⟨i, ?_, (closesAt_append_left [c] hi).2 hcloses⟩
          rw [List.length_append]
          omega
      | some next =>
          rw [run?_append_of_some _ hrun, run?_cons] at h
          have hstep : next.step? c = none := by
            cases hstep : next.step? c with
            | none => rfl
            | some last =>
                rw [hstep] at h
                contradiction
          obtain ⟨⟨hcode, hdepth⟩, rfl⟩ := step?_eq_none_iff.1 hstep
          refine ⟨s.length, by simp, (closesAt_length_iff s _).2 ⟨rfl, ?_, ?_⟩⟩
          · rw [endsInCode_iff]
            rw [mode_of_run? hrun] at hcode
            exact hcode
          · rw [(codeCount_of_run? hrun).1, hdepth, Nat.add_zero]

end Reading

namespace ImportsList

open Text

/-! ## The closing bracket -/

theorem splitClosing?_eq_some_iff_isLeast {t body after : Text} :
    splitClosing? .code 0 t = some (body, after) ↔
      t = body ++ after ∧ IsLeast {e | ClosesAt t e} body.length := by
  have hread : splitClosing? .code 0 t = some (body, after) ↔
      t = body ++ after ∧ after.head? = some ']' ∧
        ∃ last, Reading.start.run? body = some last ∧ last.Closes :=
    Reading.splitClosing?_eq_some_iff (r := Reading.start)
  rw [hread]
  constructor
  · rintro ⟨rfl, hhead, last, hrun, hcode, hdepth⟩
    obtain ⟨hcount, hopen⟩ := Reading.codeCount_of_run? hrun
    refine ⟨rfl, (closesAt_length_iff body after).2 ⟨hhead, ?_, ?_⟩, ?_⟩
    · rw [LexMode.endsInCode_iff]
      rw [Reading.mode_of_run? hrun] at hcode
      exact hcode
    · rw [hcount, hdepth, Nat.add_zero]
    · intro e hcloses
      by_contra hlt
      rw [Nat.not_le] at hlt
      exact hopen e hlt ((closesAt_append_left after hlt).1 hcloses)
  · rintro ⟨rfl, hcloses, hleast⟩
    obtain ⟨hhead, hcode, hcount⟩ := (closesAt_length_iff body after).1 hcloses
    refine ⟨rfl, hhead, ?_⟩
    cases hrun : Reading.start.run? body with
    | none =>
        obtain ⟨i, hi, hearlier⟩ := Reading.exists_closesAt_of_run?_eq_none hrun
        have hle := hleast ((closesAt_append_left after hi).2 hearlier)
        omega
    | some last =>
        refine ⟨last, rfl, ?_, ?_⟩
        · rw [LexMode.endsInCode_iff] at hcode
          rw [Reading.mode_of_run? hrun]
          exact hcode
        · have hdepth := (Reading.codeCount_of_run? hrun).1
          omega

theorem splitClosing?_isSome {t : Text} {e : Nat}
    (h : IsLeast {e | ClosesAt t e} e) :
    splitClosing? .code 0 t = some (t.take e, t.drop e) := by
  have hlt : e < t.length := (List.getElem?_eq_some_iff.1 h.1.1.1).1
  rw [splitClosing?_eq_some_iff_isLeast, List.length_take,
    Nat.min_eq_left hlt.le]
  exact ⟨(List.take_append_drop e t).symm, h⟩

/-! ## The opening -/

/-- The word `imports` begins at `m`, at a word boundary, and with a colon and a
bracket and the blanks between them it ends ahead of `b`. -/
def OpensAt (t : Text) (m b : Nat) : Prop :=
  ∃ before opening rest, t = before ++ opening ++ rest ∧ IsOpening opening ∧
    isWordBoundary before.getLast? opening.head? = true ∧
    m = before.length ∧ b = m + opening.length

theorem isWordBoundary_opening_iff {opening : Text} {left : Option Char}
    (h : IsOpening opening) :
    isWordBoundary left opening.head? = true ↔ left.any isWordChar = false := by
  obtain ⟨rest, rfl⟩ := h.eq_cons
  have hword : isWordChar 'i' = true := by decide
  simp [isWordBoundary, hword]

theorem IsOpening.unique {opening opening' rest rest' : Text}
    (h : IsOpening opening) (h' : IsOpening opening')
    (heq : opening ++ rest = opening' ++ rest') :
    opening = opening' := by
  have hhere : openingHere? (opening ++ rest) = some (opening, rest) :=
    openingHere?_eq_some_iff.2 ⟨h, rfl⟩
  have hhere' : openingHere? (opening ++ rest) = some (opening', rest') :=
    openingHere?_eq_some_iff.2 ⟨h', heq⟩
  rw [hhere, Option.some.injEq, Prod.mk.injEq] at hhere'
  exact hhere'.1

theorem OpensAt.unique {t : Text} {m b b' : Nat} (h : OpensAt t m b)
    (h' : OpensAt t m b') : b = b' := by
  obtain ⟨before, opening, rest, rfl, hopening, -, rfl, rfl⟩ := h
  obtain ⟨before', opening', rest', heq, hopening', -, hlength, rfl⟩ := h'
  rw [List.append_assoc, List.append_assoc] at heq
  rw [hopening.unique hopening' (List.append_inj heq hlength).2]

/-- Ahead of what the search returns there is no opening. -/
theorem openingHere?_eq_none_of_splitOpening? {left : Option Char}
    {t a s : Text} (hsplit : t = a ++ s)
    (hleft : (a.getLast?.or left).any isWordChar = false)
    (hahead : ∀ before opening rest,
      splitOpening? left t = some (before, opening, rest) →
        a.length < before.length) : openingHere? s = none := by
  induction a generalizing left t with
  | nil =>
      rw [List.nil_append] at hsplit
      subst hsplit
      rw [List.getLast?_nil, Option.none_or] at hleft
      cases t with
      | nil => rfl
      | cons c t =>
          cases hhere : openingHere? (c :: t) with
          | none => rfl
          | some found =>
              obtain ⟨opening, rest⟩ := found
              have hlt := hahead [] opening rest
                (by simp [splitOpening?_cons, hleft, hhere])
              contradiction
  | cons c a ih =>
      subst hsplit
      have htail : (a.getLast?.or (some c)).any isWordChar = false := by
        rw [List.getLast?_cons] at hleft
        cases hlast : a.getLast? <;> simpa [hlast] using hleft
      rw [List.cons_append, splitOpening?_cons] at hahead
      split at hahead
      next =>
        have hlt := hahead _ _ _ rfl
        contradiction
      next =>
        apply ih rfl htail
        intro before opening rest hrest
        rw [hrest] at hahead
        have hlt := hahead _ _ _ rfl
        rw [List.length_cons, List.length_cons] at hlt
        omega

theorem any_getLast?_of_splitOpening? {left : Option Char}
    {t before opening rest : Text}
    (h : splitOpening? left t = some (before, opening, rest)) :
    (before.getLast?.or left).any isWordChar = false := by
  induction t generalizing left before with
  | nil => simp [splitOpening?] at h
  | cons c t ih =>
      rw [splitOpening?_cons] at h
      split at h
      next hhere =>
        simp only [Option.some.injEq, Prod.mk.injEq] at h
        rw [← h.1, List.getLast?_nil, Option.none_or]
        by_contra hleft
        rw [Bool.not_eq_false] at hleft
        simp [hleft] at hhere
      next =>
        obtain ⟨⟨before', opening', rest'⟩, hrest, heq⟩ :=
          Option.map_eq_some_iff.1 h
        simp only [Prod.mk.injEq] at heq
        obtain ⟨rfl, rfl, rfl⟩ := heq
        have htail := ih hrest
        rw [List.getLast?_cons]
        cases hlast : before'.getLast? <;> simpa [hlast] using htail

theorem opensAt_of_splitOpening? {t before opening rest : Text}
    (h : splitOpening? none t = some (before, opening, rest)) :
    OpensAt t before.length (before.length + opening.length) ∧
      ∀ m b, OpensAt t m b → before.length ≤ m := by
  obtain ⟨hsplit, hopening⟩ := splitOpening?_eq_some h
  have hleft := any_getLast?_of_splitOpening? h
  rw [Option.or_none] at hleft
  refine ⟨⟨before, opening, rest, hsplit, hopening,
    (isWordBoundary_opening_iff hopening).2 hleft, rfl, rfl⟩, ?_⟩
  rintro m b ⟨before', opening', rest', hsplit', hopening', hboundary, rfl, -⟩
  by_contra hlt
  have hleft' : (before'.getLast?.or none).any isWordChar = false := by
    rw [Option.or_none]
    exact (isWordBoundary_opening_iff hopening').1 hboundary
  have hnone := openingHere?_eq_none_of_splitOpening?
    (hsplit'.trans (List.append_assoc _ _ _)) hleft'
    fun before₂ opening₂ rest₂ h₂ => by
      rw [h, Option.some.injEq, Prod.mk.injEq] at h₂
      rw [← h₂.1]
      omega
  rw [openingHere?_eq_some_iff.2 ⟨hopening', rfl⟩] at hnone
  contradiction

theorem not_opensAt_of_splitOpening?_eq_none {t : Text}
    (h : splitOpening? none t = none) (m b : Nat) : ¬ OpensAt t m b := by
  rintro ⟨before, opening, rest, hsplit, hopening, hboundary, -, -⟩
  have hleft : (before.getLast?.or none).any isWordChar = false := by
    rw [Option.or_none]
    exact (isWordBoundary_opening_iff hopening).1 hboundary
  have hnone := openingHere?_eq_none_of_splitOpening?
    (hsplit.trans (List.append_assoc _ _ _)) hleft
    fun _ _ _ hsome => by
      rw [h] at hsome
      contradiction
  rw [openingHere?_eq_some_iff.2 ⟨hopening, rfl⟩] at hnone
  contradiction

/-! ## The bounds -/

/-- The positions of the opening, of the body behind it and of the closing
bracket of the list that is found. -/
def bounds? (t : Text) : Option (Nat × Nat × Nat) :=
  (find? t).map fun l => (l.openingStart, l.bodyStart, l.bodyEnd)

/-- The leftmost opening of a text is at `m` and ends ahead of `b`. -/
def FirstOpensAt (t : Text) (m b : Nat) : Prop :=
  OpensAt t m b ∧ ∀ m' b', OpensAt t m' b' → m ≤ m'

/-- The first bracket behind `b` that closes is at `e`. -/
def FirstClosesAt (t : Text) (b e : Nat) : Prop :=
  IsLeast {e | b ≤ e ∧ ClosesAt (t.drop b) (e - b)} e

theorem FirstOpensAt.splitOpening? {t : Text} {m b : Nat}
    (h : FirstOpensAt t m b) : ∃ before opening rest,
      ImportsList.splitOpening? none t = some (before, opening, rest) ∧
        before.length = m ∧ before.length + opening.length = b ∧
        rest = t.drop b := by
  cases hsplit : ImportsList.splitOpening? none t with
  | none => exact (not_opensAt_of_splitOpening?_eq_none hsplit m b h.1).elim
  | some found =>
      obtain ⟨before, opening, rest⟩ := found
      obtain ⟨hopens, hleast⟩ := opensAt_of_splitOpening? hsplit
      have hm : before.length = m :=
        Nat.le_antisymm (hleast m b h.1) (h.2 _ _ hopens)
      subst hm
      have hb := hopens.unique h.1
      refine ⟨before, opening, rest, rfl, rfl, hb, ?_⟩
      rw [← hb, (splitOpening?_eq_some hsplit).1, ← List.length_append,
        List.drop_left]

theorem firstClosesAt_add_iff {t : Text} {b k : Nat} :
    FirstClosesAt t b (b + k) ↔ IsLeast {e | ClosesAt (t.drop b) e} k := by
  constructor
  · rintro ⟨⟨-, hcloses⟩, hleast⟩
    refine ⟨by simpa using hcloses, fun e he => ?_⟩
    have hle := hleast (a := b + e) ⟨by omega, by simpa using he⟩
    omega
  · rintro ⟨hcloses, hleast⟩
    refine ⟨⟨by omega, by simpa using hcloses⟩, ?_⟩
    rintro e ⟨hb, he⟩
    have hle := hleast he
    omega

theorem bounds?_eq_some_iff {t : Text} {m b e : Nat} :
    bounds? t = some (m, b, e) ↔ FirstOpensAt t m b ∧ FirstClosesAt t b e := by
  constructor
  · intro h
    obtain ⟨l, hfind, hbounds⟩ := Option.map_eq_some_iff.1 h
    simp only [Prod.mk.injEq] at hbounds
    obtain ⟨rfl, rfl, rfl⟩ := hbounds
    simp only [find?, Option.bind_eq_bind, Option.bind_eq_some_iff, Prod.exists,
      Option.pure_def, Option.some.injEq] at hfind
    obtain ⟨before, opening, rest, hopening, body, after, hclosing, rfl⟩ := hfind
    refine ⟨opensAt_of_splitOpening? hopening, firstClosesAt_add_iff.2 ?_⟩
    have hdrop : t.drop (before.length + opening.length) = rest := by
      rw [(splitOpening?_eq_some hopening).1, ← List.length_append, List.drop_left]
    exact hdrop ▸ (splitClosing?_eq_some_iff_isLeast.1 hclosing).2
  · rintro ⟨hopens, hcloses⟩
    obtain ⟨before, opening, rest, hopening, rfl, rfl, rfl⟩ := hopens.splitOpening?
    obtain ⟨k, rfl⟩ := Nat.exists_eq_add_of_le hcloses.1.1
    have hleast := firstClosesAt_add_iff.1 hcloses
    have hk : k < (t.drop (before.length + opening.length)).length :=
      (List.getElem?_eq_some_iff.1 hleast.1.1.1).1
    rw [bounds?, find?, hopening]
    simp only [Option.bind_eq_bind, Option.bind_some, splitClosing?_isSome hleast,
      Option.pure_def, Option.map_some, openingStart, bodyStart, bodyEnd,
      List.length_take, Nat.min_eq_left hk.le]

theorem bounds?_eq_none_iff {t : Text} :
    bounds? t = none ↔ (∀ m b, ¬ OpensAt t m b) ∨
      ∃ m b, FirstOpensAt t m b ∧ ∀ e, ¬ FirstClosesAt t b e := by
  constructor
  · intro h
    cases hsplit : splitOpening? none t with
    | none => exact Or.inl (not_opensAt_of_splitOpening?_eq_none hsplit)
    | some found =>
        obtain ⟨before, opening, rest⟩ := found
        have hopens := opensAt_of_splitOpening? hsplit
        refine Or.inr ⟨_, _, hopens, fun e hcloses => ?_⟩
        rw [bounds?_eq_some_iff.2 ⟨hopens, hcloses⟩] at h
        contradiction
  · intro h
    by_contra hsome
    obtain ⟨⟨m, b, e⟩, hbounds⟩ := Option.ne_none_iff_exists'.1 hsome
    obtain ⟨hopens, hcloses⟩ := bounds?_eq_some_iff.1 hbounds
    rcases h with hnone | ⟨m', b', hopens', hopen⟩
    · exact hnone m b hopens.1
    · have hm : m' = m :=
        Nat.le_antisymm (hopens'.2 m b hopens.1) (hopens.2 m' b' hopens'.1)
      subst hm
      rw [hopens'.1.unique hopens.1] at hopen
      exact hopen e hcloses

/-- The text behind the closing bracket has no part in the search. -/
theorem bounds?_take_append {t : Text} {m b e : Nat}
    (h : bounds? t = some (m, b, e)) (rest : Text) :
    bounds? (t.take (e + 1) ++ rest) = some (m, b, e) := by
  obtain ⟨l, hfind, hbounds⟩ := Option.map_eq_some_iff.1 h
  simp only [Prod.mk.injEq] at hbounds
  obtain ⟨rfl, rfl, rfl⟩ := hbounds
  have hreadable := Readable.of_find? hfind
  obtain ⟨-, after, -, hafter⟩ := hreadable.exists_seams
  have htake : t.take (l.bodyEnd + 1) = l.before ++ l.opening ++ l.body ++ [']'] := by
    have hlength : l.bodyEnd + 1 =
        (l.before ++ l.opening ++ l.body ++ [']']).length := by
      simp only [bodyEnd, bodyStart, openingStart, List.length_append,
        List.length_singleton]
    have htext : t = (l.before ++ l.opening ++ l.body ++ [']']) ++ after := by
      rw [← toText_of_find? hfind, toText, hafter]
      simp
    rw [htext, hlength, List.take_left]
  have hother : ({ l with after := ']' :: rest } : ImportsList).Readable :=
    ⟨hreadable.opens, hreadable.closes, rfl⟩
  have htext : ({ l with after := ']' :: rest } : ImportsList).toText =
      t.take (l.bodyEnd + 1) ++ rest := by
    rw [htake, toText]
    simp
  rw [← htext, bounds?, hother.find?]
  rfl

/-- The list is found between the bounds that the two searches fix, and nowhere
else; what follows it is not read. -/
theorem bounds?_two_searches (t : Text) :
    (∀ m b e, bounds? t = some (m, b, e) ↔
      FirstOpensAt t m b ∧ FirstClosesAt t b e) ∧
    (bounds? t = none ↔ (∀ m b, ¬ OpensAt t m b) ∨
      ∃ m b, FirstOpensAt t m b ∧ ∀ e, ¬ FirstClosesAt t b e) ∧
    (∀ m b e rest, bounds? t = some (m, b, e) →
      bounds? (t.take (e + 1) ++ rest) = some (m, b, e)) :=
  ⟨fun _ _ _ => bounds?_eq_some_iff, bounds?_eq_none_iff,
    fun _ _ _ rest h => bounds?_take_append h rest⟩

end ImportsList

end ModuleScaffold
