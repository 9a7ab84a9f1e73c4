import ModuleScaffold.Proofs.Aggregator.Bounds
import ModuleScaffold.Proofs.Aggregator.Insertions

/-!
# What stands on top of a text

The list of a text is looked for in raw text, so a text on top of another one moves
its list unless an opening begins in the text on top.

No opening begins in an import line, whatever the module is called.  What the two
insertions of a registration read of each other's text, they do not change: the newline
style, the indentation, the lines and the words of the list.  So they commute.

An opening may begin in a comment.  The list is then looked for in the comment, and a
registration writes into it.
-/

namespace ModuleScaffold

open Text

variable {raw : Text} {n : ModuleName} {p t : Text}

namespace ImportsList

/-- The bounds of a list that lies `k` code points further on. -/
def shift (k : Nat) : Nat × Nat × Nat → Nat × Nat × Nat
  | (m, b, e) => (m + k, b + k, e + k)

/-- An opening begins in the text `p`, on top of `t`. -/
def OpensWithin (p t : Text) : Prop :=
  ∃ m b, OpensAt (p ++ t) m b ∧ m < p.length

/-- The list behind a text on top. -/
def below (l : ImportsList) (p : Text) : ImportsList :=
  { l with before := p ++ l.before }

theorem find?_append_of_not_opensWithin (hlast : p.getLast?.any isWordChar = false)
    (h : ¬ OpensWithin p t) : find? (p ++ t) = (find? t).map (·.below p) := by
  refine find?_append t hlast fun a s hsplit hne hleft => ?_
  by_contra hfound
  obtain ⟨⟨opening, rest⟩, hsome⟩ := Option.ne_none_iff_exists'.1 hfound
  obtain ⟨hopening, hrest⟩ := openingHere?_eq_some_iff.1 hsome
  have htext : p ++ t = a ++ opening ++ rest := by
    rw [hsplit, List.append_assoc, hrest, List.append_assoc]
  have hshorter : a.length < p.length := by
    have hpos := List.length_pos_iff.2 hne
    rw [hsplit, List.length_append]
    omega
  exact h ⟨a.length, _, ⟨a, opening, rest, htext, hopening,
    (isWordBoundary_opening_iff hopening).2 hleft, rfl, rfl⟩, hshorter⟩

theorem bounds?_of_find?_append (h : find? (p ++ t) = (find? t).map (·.below p)) :
    bounds? (p ++ t) = (bounds? t).map (shift p.length) := by
  rw [bounds?, bounds?, h, Option.map_map, Option.map_map]
  congr 1
  funext l
  simp only [Function.comp_apply, shift, below, bodyEnd, bodyStart, openingStart,
    List.length_append, Prod.mk.injEq]
  omega

/-- The list that is found begins no later than any opening. -/
theorem OpensWithin.lt_length {m b e : Nat} (h : OpensWithin p t)
    (hbounds : bounds? (p ++ t) = some (m, b, e)) : m < p.length := by
  obtain ⟨m', b', hopens, hlt⟩ := h
  exact ((bounds?_eq_some_iff.1 hbounds).1.2 m' b' hopens).trans_lt hlt

/-- A text on top moves the list if and only if no opening begins in it, or there is no
list either way. -/
theorem bounds?_append_iff (hlast : p.getLast?.any isWordChar = false) :
    bounds? (p ++ t) = (bounds? t).map (shift p.length) ↔
      ¬ OpensWithin p t ∨ bounds? t = none ∧ bounds? (p ++ t) = none := by
  constructor
  · intro hmoved
    by_cases hopens : OpensWithin p t
    · refine .inr ?_
      cases hbounds : bounds? t with
      | none => exact ⟨rfl, by rw [hmoved, hbounds, Option.map_none]⟩
      | some bounds =>
          rw [hbounds, Option.map_some] at hmoved
          have hlt := hopens.lt_length hmoved
          omega
    · exact .inl hopens
  · rintro (hnone | ⟨hbounds, hmoved⟩)
    · exact bounds?_of_find?_append (find?_append_of_not_opensWithin hlast hnone)
    · rw [hbounds, hmoved, Option.map_none]

end ImportsList

open ImportsList

/-! ## The import line -/

/-- A registration is the entry behind the import line. -/
theorem content_register (n : ModuleName) (t : Text) :
    (register n t).content = withEntry n (withImport n t) := by
  rw [register, withEntry]
  cases find? (withImport n t) with
  | none => rfl
  | some l =>
      dsimp only
      split <;> rfl

theorem bounds?_withImport (hn : ModuleName.derive raw = .ok n) (t : Text) :
    ∃ top, withImport n t = top ++ t ∧
      bounds? (withImport n t) = (bounds? t).map (shift top.length) := by
  refine ⟨newImports t [n], withImport_eq_append n t, ?_⟩
  rw [withImport_eq_append]
  apply bounds?_of_find?_append
  rw [← withImport_eq_append, find?_withImport hn]
  refine Option.map_congr fun l hl => ?_
  rw [imported, toText_of_find? hl, below, newImports_singleton]
  split <;> rfl

/-- An entry and an import line are put into a list in either order. -/
theorem ImportsList.imported_append (hn : ModuleName.derive raw = .ok n) {l : ImportsList}
    (h : l.Readable) (hword : l.body.hasWord n.moduleClass = false) :
    (l.append n.moduleClass).imported n = (l.imported n).append n.moduleClass := by
  have hentry := ModuleName.isWord_moduleClass hn
  have hbody : l.body.hasLine n.importLine = false := by
    by_contra hline
    rw [ModuleName.hasWord_of_hasLine_importLine hn (by simpa using hline)] at hword
    contradiction
  calc (l.append n.moduleClass).imported n
      = { l.imported n with body := (l.append n.moduleClass).body } := by
        -- the entry neither is an import line nor changes the newline style
        rw [imported, imported, hasLine_append h hn hentry hbody, newline_append h hentry]
        split <;> rfl
    _ = (l.imported n).append n.moduleClass := by
        rw [← body_append_imported hn]
        rfl

theorem withImport_withEntry (hn : ModuleName.derive raw = .ok n) (t : Text) :
    withImport n (withEntry n t) = (register n t).content := by
  cases hfind : find? t with
  | none =>
      rw [(register_of_find?_none hn hfind).1, withEntry, hfind]
  | some l =>
      have htext := toText_of_find? hfind
      rw [(register_of_find?_some hn hfind).1, withEntry, hfind, registered]
      dsimp only
      split
      next => rw [← htext, toText_imported]
      next hword =>
        rw [← toText_imported,
          imported_append hn (.of_find? hfind) (by simpa using hword)]

/-- The import line and the entry are inserted in either order, and the list is where it
was behind the line. -/
theorem withImport_withEntry_comm (hn : ModuleName.derive raw = .ok n) (t : Text) :
    withImport n (withEntry n t) = (register n t).content ∧
      withEntry n (withImport n t) = (register n t).content ∧
      ∃ top, withImport n t = top ++ t ∧
        bounds? (withImport n t) = (bounds? t).map (shift top.length) :=
  ⟨withImport_withEntry hn t, (content_register n t).symm, bounds?_withImport hn t⟩

/-- A module that is called as the marker, and a text that begins with it. -/
theorem withImport_withEntry_comm_imports :
    let n : ModuleName := .ofPascal "Imports"
    let t : Text := "imports: [A]\r\n"
    withImport n (withEntry n t) = withEntry n (withImport n t) ∧
      bounds? t = some (0, 10, 11) ∧ bounds? (withImport n t) = some (59, 69, 70) := by
  intro n t
  have hn : ModuleName.derive "imports" = .ok n := by rfl
  have hbounds : bounds? t = some (0, 10, 11) := by decide +kernel
  obtain ⟨himport, hentry, top, htop, hmoved⟩ := withImport_withEntry_comm hn t
  have hlength : top.length = 59 := by
    have htotal := congrArg List.length htop
    rw [List.length_append, show (withImport n t).length = 73 by decide +kernel,
      show t.length = 14 by decide +kernel] at htotal
    omega
  rw [hbounds, hlength] at hmoved
  exact ⟨himport.trans hentry.symm, hbounds, hmoved⟩

/-! ## A comment -/

/-- A line that is a comment, if `c` holds no line feed. -/
def commentLine (c : Text) : Text :=
  "// " ++ c ++ "\n"

theorem commentLine_eq_concat (c : Text) :
    commentLine c = ("//".toList ++ ' ' :: c) ++ ['\n'] := by
  simp [commentLine]

theorem any_getLast?_commentLine (c : Text) :
    (commentLine c).getLast?.any isWordChar = false := by
  rw [commentLine_eq_concat, List.getLast?_concat]
  rfl

/-- A comment that does not hold the word `imports` is no place for an opening. -/
theorem not_opensWithin_commentLine {c : Text} (h : ¬ "imports".toList <:+: c) (t : Text) :
    ¬ OpensWithin (commentLine c) t := by
  rintro ⟨_, _, ⟨before, opening, rest, hsplit, ⟨b, b', -, -, rfl⟩, -, rfl, -⟩, hlt⟩
  have hfeed : '\n' ∉ "imports".toList := by decide +kernel
  rw [commentLine_eq_concat] at hlt
  have hword : ("//".toList ++ ' ' :: c) ++ '\n' :: t =
      before ++ "imports".toList ++ (b ++ ':' :: (b' ++ ['[']) ++ rest) := by
    rw [commentLine_eq_concat, List.append_assoc, List.singleton_append] at hsplit
    simpa only [List.append_assoc] using hsplit
  rcases occurrence_cases hfeed hword with ⟨rest', hahead, -⟩ | ⟨behind, rfl, -⟩
  · have hheld : "imports".toList <:+: "//".toList ++ ' ' :: c :=
      ⟨before, rest', hahead.symm⟩
    rw [infix_append_cons_iff (by decide +kernel)] at hheld
    exact h (hheld.resolve_left (by decide +kernel))
  · simp at hlt

theorem bounds?_commentLine_append {c : Text} (h : ¬ "imports".toList <:+: c) (t : Text) :
    bounds? (commentLine c ++ t) = (bounds? t).map (shift (commentLine c).length) :=
  bounds?_of_find?_append
    (find?_append_of_not_opensWithin (any_getLast?_commentLine c)
      (not_opensWithin_commentLine h t))

/-- A registration edits the list behind a comment in which no opening begins. -/
theorem content_register_commentLine (hn : ModuleName.derive raw = .ok n) {c : Text}
    (h : ¬ OpensWithin (commentLine c) t) :
    ∃ top, (top = [] ∨ top = n.importLine ++ (commentLine c ++ t).newline.text) ∧
      (find? t = none → (register n (commentLine c ++ t)).content =
        top ++ commentLine c ++ t) ∧
      ∀ l, find? t = some l → ∃ body, (register n (commentLine c ++ t)).content =
        top ++ commentLine c ++ t.take l.bodyStart ++ body ++ t.drop l.bodyEnd := by
  have hfind := find?_append_of_not_opensWithin (any_getLast?_commentLine c) h
  refine ⟨newImports (commentLine c ++ t) [n], ?_, fun hnone => ?_, fun l hl => ?_⟩
  · rw [newImports_singleton]
    split
    · exact .inl rfl
    · exact .inr rfl
  · rw [hnone, Option.map_none] at hfind
    rw [(register_of_find?_none hn hfind).1, withImport_eq_append, List.append_assoc]
  · rw [hl, Option.map_some] at hfind
    refine ⟨((l.below (commentLine c)).registered n).body, ?_⟩
    obtain rfl := toText_of_find? hl
    rw [(register_of_find?_some hn hfind).1, take_bodyStart, drop_bodyEnd,
      toText_registered_eq_append, toText_of_find? hfind, below]
    simp only [List.append_assoc]

/-- A comment on top moves the list if and only if no opening begins in the comment, or
there is no list either way.  In the first case a registration edits the list behind
the comment, and in the other one the list that is found begins in the comment. -/
theorem bounds?_commentLine_append_iff (c t : Text) :
    (bounds? (commentLine c ++ t) = (bounds? t).map (shift (commentLine c).length) ↔
      ¬ OpensWithin (commentLine c) t ∨
        bounds? t = none ∧ bounds? (commentLine c ++ t) = none) ∧
    (¬ OpensWithin (commentLine c) t → ∀ raw n, ModuleName.derive raw = .ok n →
      ∃ top, (top = [] ∨ top = n.importLine ++ (commentLine c ++ t).newline.text) ∧
        (find? t = none → (register n (commentLine c ++ t)).content =
          top ++ commentLine c ++ t) ∧
        ∀ l, find? t = some l → ∃ body, (register n (commentLine c ++ t)).content =
          top ++ commentLine c ++ t.take l.bodyStart ++ body ++ t.drop l.bodyEnd) ∧
    (OpensWithin (commentLine c) t → ∀ m b e,
      bounds? (commentLine c ++ t) = some (m, b, e) → m < (commentLine c).length) :=
  ⟨bounds?_append_iff (any_getLast?_commentLine c),
    fun h _ _ hn => content_register_commentLine hn h,
    fun h _ _ _ hbounds => h.lt_length hbounds⟩

/-- The word `imports` of the comment is the end of a longer word. -/
theorem bounds?_commentLine_append_iff_reimports :
    let p := commentLine "reimports: [A]"
    let t : Text := "imports: [B]"
    ¬ OpensWithin p t ∧
      bounds? (p ++ t) = (bounds? t).map (shift p.length) ∧
      ∃ top body, (register (.ofPascal "Users") (p ++ t)).content =
        top ++ p ++ "imports: [".toList ++ body ++ "]".toList := by
  intro p t
  have hn : ModuleName.derive "users" = .ok (.ofPascal "Users") := by rfl
  have hfind : find? t = some ⟨"", "imports: [", "B", "]"⟩ := by rfl
  have hbounds : bounds? (p ++ t) = some (18, 28, 29) := by decide +kernel
  obtain ⟨hmoved, hregistered, hwithin⟩ := bounds?_commentLine_append_iff "reimports: [A]" t
  have hnone : ¬ OpensWithin p t := fun h =>
    absurd (hwithin h 18 28 29 hbounds) (by decide +kernel)
  obtain ⟨top, -, -, hlist⟩ := hregistered hnone _ _ hn
  obtain ⟨body, hcontent⟩ := hlist _ hfind
  exact ⟨hnone, hmoved.2 (.inl hnone), top, body, hcontent⟩

/-- A list that was put into a comment. -/
theorem not_forall_bounds?_commentLine_append :
    ¬ ∀ c t : Text, '\n' ∉ c →
      bounds? (commentLine c ++ t) = (bounds? t).map (shift (commentLine c).length) := by
  intro h
  have hmoved := h "imports: [A]" "imports: [B]" (by decide +kernel)
  have hfound : bounds? (commentLine "imports: [A]" ++ "imports: [B]".toList) =
      some (3, 13, 14) := by decide +kernel
  rw [hfound] at hmoved
  exact absurd hmoved (by decide +kernel)

end ModuleScaffold
