import ModuleScaffold.Artifact
import ModuleScaffold.Proofs.ModuleName.Spellings

/-!
# The lines of a generated file

The lines of a file are those of its template with the spellings of the name filled in.
Spellings hold letters, digits and hyphens only, so the other marks of a line are those
of its template, whatever the name is.  A look at the marks tells which lines can be
imports from a file beside the one they stand in: those of the service, of the controller
and of the entity.
-/

namespace ModuleScaffold

namespace Text

/-- The line that imports `symbols` from the file or package `source`. -/
def importing (symbols source : Text) : Text :=
  "import \x7b " ++ symbols ++ " \x7d from '" ++ source ++ "';"

/-- What stands on the two sides of a mark is told by the whole text, if the mark does
not occur in either. -/
theorem eq_of_append_mark {a b b' c d s s' e : Text} {mark : Char} (ha : mark ∉ a)
    (hb : mark ∉ b) (hc : c = d ++ [mark]) (hd : mark ∉ d) (hs : mark ∉ s)
    (h : a ++ b ++ c ++ s ++ e = a ++ b' ++ c ++ s' ++ e) : b = b' ∧ s = s' := by
  have hahead : mark ∉ a ++ b ++ d :=
    List.not_mem_append (List.not_mem_append ha hb) hd
  have hcut : (a ++ b ++ d) ++ mark :: s = (a ++ b' ++ d) ++ mark :: s' := by
    simpa [hc] using List.append_cancel_right h
  obtain ⟨hleft, -, hright⟩ := (List.append_cons_inj_of_notMem hahead hs).1 hcut
  exact ⟨List.append_cancel_left (List.append_cancel_right hleft), hright⟩

/-- A line tells what it imports and from where. -/
theorem importing_inj {symbols symbols' source source' : Text}
    (hsymbols : '\x27' ∉ symbols) (hsource : '\x27' ∉ source)
    (h : importing symbols source = importing symbols' source') :
    symbols = symbols' ∧ source = source' := by
  have hopening : '\x27' ∉ "import \x7b ".toList := by simp
  have hfrom : " \x7d from '".toList = " \x7d from ".toList ++ ['\x27'] := by simp
  have hahead : '\x27' ∉ " \x7d from ".toList := by simp
  exact eq_of_append_mark hopening hsymbols hfrom hahead hsource h

end Text

/-! ## The marks of a line -/

/-- Whether a code point cannot stand in a spelling of a name. -/
def isMark (c : Char) : Bool :=
  !(c == '-' || c.isAlphanum)

theorem isMark_eq_false_iff {c : Char} :
    isMark c = false ↔ c = '-' ∨ c.isAlphanum = true := by
  rw [isMark, Bool.not_eq_false', Bool.or_eq_true, beq_iff_eq]

theorem isMark_of_isLineBreak {c : Char} (h : isLineBreak c = true) : isMark c = true := by
  by_contra hmark
  rcases isMark_eq_false_iff.1 (by simpa using hmark) with rfl | halphanum
  · contradiction
  · rw [isLineBreak_of_not_isBlank (isBlank_of_isAlphanum halphanum)] at h
    contradiction

/-- What every module has of a piece. -/
def Piece.common : Piece → Text
  | verbatim text => text
  | className suffix => suffix
  | pascal | camel | kebab => []

/-- What every module has of a line. -/
def TemplateLine.common (line : TemplateLine) : Text :=
  line.flatMap Piece.common

section Render

variable {raw symbols source : Text} {n : ModuleName}

theorem filter_isMark_eq_nil {t : Text} (h : ∀ c ∈ t, c = '-' ∨ c.isAlphanum = true) :
    t.filter isMark = [] := by
  rw [List.filter_eq_nil_iff]
  intro c hmem
  rw [isMark_eq_false_iff.2 (h c hmem)]
  exact Bool.false_ne_true

theorem Piece.filter_isMark_render (h : ModuleName.derive raw = .ok n) (piece : Piece) :
    (piece.render n).filter isMark = piece.common.filter isMark := by
  have hpascal : n.pascal.filter isMark = [] :=
    filter_isMark_eq_nil fun c hc => .inr (ModuleName.isAlphanum_of_mem_pascal h c hc)
  cases piece with
  | verbatim text => rfl
  | pascal => exact hpascal
  | className suffix => rw [render, List.filter_append, hpascal, List.nil_append, common]
  | camel =>
      exact filter_isMark_eq_nil fun c hc => .inr (ModuleName.isAlphanum_of_mem_camel h c hc)
  | kebab => exact filter_isMark_eq_nil (ModuleName.isAlphanum_of_mem_kebab h)

/-- The marks of a line do not depend on the name. -/
theorem TemplateLine.filter_isMark_render (h : ModuleName.derive raw = .ok n)
    (line : TemplateLine) : (line.render n).filter isMark = line.common.filter isMark := by
  rw [render, common, List.filter_flatMap, List.filter_flatMap]
  exact congrArg line.flatMap (funext (Piece.filter_isMark_render h))

theorem TemplateLine.mem_common (h : ModuleName.derive raw = .ok n) {line : TemplateLine}
    {c : Char} (hc : isMark c = true) (hmem : c ∈ line.render n) : c ∈ line.common := by
  have hmarks : c ∈ (line.render n).filter isMark := List.mem_filter.2 ⟨hmem, hc⟩
  rw [line.filter_isMark_render h] at hmarks
  exact List.mem_of_mem_filter hmarks

/-- The lines of a file are those of its template, behind an empty one. -/
theorem Template.lines_render (h : ModuleName.derive raw = .ok n) {template : Template}
    (hlines : ∀ line ∈ template, line.common.any isLineBreak = false) :
    (template.render n).lines = [] :: template.map (TemplateLine.render n) := by
  have hrest : Text.lines (template.flatMap fun line => line.render n ++ ['\n']) =
      template.map (TemplateLine.render n) := by
    induction template with
    | nil => rfl
    | cons line template ih =>
        rw [List.forall_mem_cons] at hlines
        have hbreak : ∀ c ∈ line.render n, isLineBreak c = false := by
          intro c hmem
          by_contra hc
          have hbreak : isLineBreak c = true := by simpa using hc
          have hcommon := line.mem_common h (isMark_of_isLineBreak hbreak) hmem
          exact hc (Bool.eq_false_iff.2 (List.any_eq_false.1 hlines.1 c hcommon))
        rw [List.flatMap_cons, List.append_assoc, List.singleton_append,
          Text.lines_append_newline _ hbreak, ih hlines.2, List.map_cons]
  rw [← hrest]
  exact Text.lines_newline_append .lf _

/-! ## Lines that import -/

theorem render_importing (symbols source : TemplateLine) :
    TemplateLine.render n (Template.importing symbols source) =
      Text.importing (symbols.render n) (source.render n) := by
  have hline : Template.importing symbols source =
      .verbatim "import \x7b " :: (symbols ++ .verbatim " \x7d from '" ::
        (source ++ [.verbatim "';"])) := rfl
  have hparts : ∀ a b c d e : Text,
      a ++ (b ++ (c ++ (d ++ e))) = a ++ b ++ c ++ d ++ e := by simp
  rw [hline, TemplateLine.render, List.flatMap_cons, List.flatMap_append, List.flatMap_cons,
    List.flatMap_append, List.flatMap_singleton]
  exact hparts _ _ _ _ _

/-- Only a line with the marks of an import from beside the file can be one. -/
theorem isInfix_common_of_importing (h : ModuleName.derive raw = .ok n)
    {line : TemplateLine} (hline : line.render n = Text.importing symbols ("./" ++ source)) :
    "'./".toList <:+: line.common.filter isMark := by
  have hfrom : " \x7d from '".toList ++ "./".toList = " \x7d from ".toList ++ "'./".toList := by
    simp
  have hmarks : "'./".toList.filter isMark = "'./".toList := by simp [isMark]
  have hparts : ∀ {a b c d p q s e : Text}, c ++ d = p ++ q →
      a ++ b ++ c ++ (d ++ s) ++ e = a ++ b ++ p ++ q ++ (s ++ e) := by
    intro a b c d p q s e hcut
    rw [List.append_assoc _ c, ← List.append_assoc c, hcut]
    simp
  have hrender := hline.trans (hparts hfrom)
  rw [← line.filter_isMark_render h, hrender, List.filter_append, List.filter_append, hmarks]
  exact List.infix_append _ _ _

/-- What a line of a template imports and from where is told by the line of the file. -/
theorem render_importing_inj (h : ModuleName.derive raw = .ok n)
    {symbols' source' : TemplateLine} (hquote : '\x27' ∉ symbols'.common ++ source'.common)
    (hline : TemplateLine.render n (Template.importing symbols' source') =
      Text.importing symbols source) :
    symbols'.render n = symbols ∧ source'.render n = source := by
  have hmark : isMark '\x27' = true := by decide
  rw [render_importing] at hline
  refine Text.importing_inj (fun hmem => hquote ?_) (fun hmem => hquote ?_) hline
  · exact List.mem_append_left _ (symbols'.mem_common h hmark hmem)
  · exact List.mem_append_right _ (source'.mem_common h hmark hmem)

theorem render_beside (ahead stem : String) :
    TemplateLine.render n [.verbatim ahead, .kebab, .verbatim stem] =
      ahead.toList ++ (n.kebab ++ stem.toList) := by
  rw [TemplateLine.render, List.flatMap_cons, List.flatMap_cons, List.flatMap_singleton]
  rfl

end Render

/-! ## The lines of the templates -/

/-- The code points of a literal need no decoding once they are listed. -/
theorem toList_eq_of_eq_ofList {s : String} {t : Text} (h : s = String.ofList t) :
    s.toList = t := by
  rw [h, String.toList_ofList]

/-- A single line without the marks of an import from beside the file. -/
def TemplateLine.IsPlain (line : TemplateLine) : Prop :=
  line.common.any isLineBreak = false ∧ ¬ "'./".toList <:+: line.common.filter isMark

namespace Template

/-- Only the lines that import the service, the controller or the entity can import from
a file beside the one they stand in. -/
theorem line_cases {backend : Backend} {kind : ArtifactKind} :
    ∀ line ∈ Template.of backend kind,
      line.IsPlain ∨ line = importingService ∨ line = importingController ∨
        line = importingEntity := by
  -- the literals are replaced by lists of code points, since decoding them takes the
  -- kernel too long
  cases backend <;> cases kind <;>
    simp (disch := exact rfl) only [Template.of, service, serviceSpec, controller,
      controllerSpec, moduleFile, definedTest, controllerSpecTitle, controllerQueries,
      controllerRoute, controllerConstructor, refusingMissing, declaringModule, importing,
      serviceClass, entityClass, controllerClass, moduleClass, List.flatten_cons,
      List.flatten_nil, List.cons_append, List.nil_append, List.append_nil,
      List.forall_mem_cons, List.not_mem_nil, TemplateLine.IsPlain, TemplateLine.common,
      Piece.common, List.flatMap_cons, List.flatMap_nil, toList_eq_of_eq_ofList, or_true,
      true_or, true_and, and_true, false_implies, implies_true]
  all_goals and_intros <;> exact .inl (by decide)

theorem any_isLineBreak_common {backend : Backend} {kind : ArtifactKind}
    {line : TemplateLine} (hmem : line ∈ Template.of backend kind) :
    line.common.any isLineBreak = false := by
  rcases line_cases line hmem with hplain | rfl | rfl | rfl
  · exact hplain.1
  all_goals decide +kernel

end Template

end ModuleScaffold
