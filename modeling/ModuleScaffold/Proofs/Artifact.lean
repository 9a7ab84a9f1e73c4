import ModuleScaffold.Proofs.Template

/-!
# What generated files import

The files of a module import each other, and the root module imports one of them.  Each
of these imports leads to a file that is generated too and that declares the class which
is imported.
-/

namespace ModuleScaffold

open ModuleName

/-- Some line of the text begins the declaration of a class. -/
def Text.DeclaresClass (t name : Text) : Prop :=
  ∃ line ∈ t.lines, ("export class " ++ name ++ " \x7b" : Text) <+: line

/-- Some file of the list is what an import from beside it asks for. -/
def Supplies (artifacts : List Artifact) (symbols source : Text) : Prop :=
  ∃ artifact ∈ artifacts, artifact.filename = source ++ ".ts" ∧
    artifact.content.DeclaresClass symbols

section Imports

variable {raw : Text} {n : ModuleName} {backend : Backend} {kind : ArtifactKind}
  {symbols source : Text}

theorem lines_renderArtifact (h : ModuleName.derive raw = .ok n) :
    (renderArtifact backend kind n).lines =
      [] :: (Template.of backend kind).map (TemplateLine.render n) :=
  Template.lines_render h fun _ hmem => Template.any_isLineBreak_common hmem

/-- A class is declared by a line of the template that names it. -/
theorem declaresClass_of_mem (h : ModuleName.derive raw = .ok n) {name : Piece}
    {ending : String} (hending : " \x7b".toList <+: ending.toList)
    (hmem : [.verbatim "export class ", name, .verbatim ending] ∈ Template.of backend kind) :
    (renderArtifact backend kind n).DeclaresClass (name.render n) := by
  obtain ⟨rest, hrest⟩ := hending
  refine ⟨TemplateLine.render n [.verbatim "export class ", name, .verbatim ending], ?_,
    rest, ?_⟩
  · rw [lines_renderArtifact h]
    exact List.mem_cons_of_mem _ (List.mem_map_of_mem hmem)
  · have hparts : ∀ a b c d : Text, a ++ b ++ c ++ d = a ++ (b ++ (c ++ d)) := by simp
    rw [TemplateLine.render, List.flatMap_cons, List.flatMap_cons, List.flatMap_singleton,
      hparts, hrest]
    rfl

theorem declaresClass_service (h : ModuleName.derive raw = .ok n) :
    (renderArtifact backend .service n).DeclaresClass (Template.serviceClass.render n) :=
  declaresClass_of_mem h (List.prefix_refl _)
    (by cases backend <;> simp [Template.of, Template.service])

theorem declaresClass_controller (h : ModuleName.derive raw = .ok n) :
    (renderArtifact backend .controller n).DeclaresClass
      (Template.controllerClass.render n) :=
  declaresClass_of_mem h (List.prefix_refl _)
    (by cases backend <;> simp [Template.of, Template.controller])

theorem declaresClass_module (h : ModuleName.derive raw = .ok n) :
    (renderArtifact backend .module n).DeclaresClass n.moduleClass := by
  have hending : " \x7b".toList <+: " \x7b\x7d".toList := by simp
  have hmem : Template.declaringModule ∈ Template.of backend .module := by
    cases backend <;> simp [Template.of, Template.moduleFile]
  have hclass : (renderArtifact backend .module n).DeclaresClass
      (Template.moduleClass.render n) := declaresClass_of_mem h hending hmem
  exact hclass

theorem supplies_of_suffix {stem : Text}
    (hclass : (renderArtifact backend kind n).DeclaresClass symbols)
    (hstem : kind.suffix = stem ++ ".ts") :
    Supplies (buildArtifacts backend n) symbols (n.kebab ++ stem) := by
  refine ⟨_, List.mem_map_of_mem (ArtifactKind.mem_all kind), ?_, hclass⟩
  rw [hstem, List.append_assoc]

/-- An import of the class that a file beside declares is supplied by that file. -/
theorem supplies_of_sibling (h : ModuleName.derive raw = .ok n) {name : Piece} {stem : String}
    (hclass : (renderArtifact backend kind n).DeclaresClass (name.render n))
    (hstem : kind.suffix = stem.toList ++ ".ts")
    (hquote : '\x27' ∉ name.common ++ ("./".toList ++ stem.toList))
    (hline : TemplateLine.render n
      (Template.importing [name] [.verbatim "./", .kebab, .verbatim stem]) =
        Text.importing symbols ("./" ++ source)) :
    Supplies (buildArtifacts backend n) symbols source := by
  have hcommon : TemplateLine.common [name] ++
      TemplateLine.common [.verbatim "./", .kebab, .verbatim stem] =
        name.common ++ ("./".toList ++ stem.toList) := by
    simp [TemplateLine.common, Piece.common]
  rw [← hcommon] at hquote
  obtain ⟨hsymbols, hsource⟩ := render_importing_inj h hquote hline
  rw [render_beside] at hsource
  rw [TemplateLine.render, List.flatMap_singleton] at hsymbols
  rw [← hsymbols, ← List.append_cancel_left hsource]
  exact supplies_of_suffix hclass hstem

/-- What a generated file imports from beside it, the entity aside, is generated too. -/
theorem supplies_of_importing (h : ModuleName.derive raw = .ok n) {line : TemplateLine}
    (hmem : line ∈ Template.of backend kind)
    (hline : line.render n = Text.importing symbols ("./" ++ source))
    (hentity : ¬ "entities/".toList <+: source) :
    Supplies (buildArtifacts backend n) symbols source := by
  rcases Template.line_cases line hmem with hplain | rfl | rfl | rfl
  · exact absurd (isInfix_common_of_importing h hline) hplain.2
  · have hquote : '\x27' ∉ Template.serviceClass.common ++
        ("./".toList ++ ".service".toList) := by
      simp [Template.serviceClass, Piece.common]
    have hstem : ".service.ts".toList = ".service".toList ++ ".ts".toList := by simp
    exact supplies_of_sibling h (declaresClass_service h) hstem hquote hline
  · have hquote : '\x27' ∉ Template.controllerClass.common ++
        ("./".toList ++ ".controller".toList) := by
      simp [Template.controllerClass, Piece.common]
    have hstem : ".controller.ts".toList = ".controller".toList ++ ".ts".toList := by simp
    exact supplies_of_sibling h (declaresClass_controller h) hstem hquote hline
  · have hquote : '\x27' ∉ TemplateLine.common [Template.entityClass] ++
        TemplateLine.common ["./entities/", .kebab, ".entity"] := by
      simp [Template.entityClass, TemplateLine.common, Piece.common]
    have hahead : "./entities/".toList = "./".toList ++ "entities/".toList := by simp
    have hsource := (render_importing_inj h hquote hline).2
    rw [render_beside, hahead, List.append_assoc] at hsource
    exact absurd ⟨_, List.append_cancel_left hsource⟩ hentity

end Imports

/-! ## The import of the root module -/

/-- A path from beside a file to an entry of a directory there. -/
theorem Path.joinText_beside (path : Path) {directory name : Text}
    (hdirectory : IsFilename directory) (hname : IsFilename name) :
    path.joinText ('.' :: '/' :: (directory ++ '/' :: name)) =
      (path.child directory).child name := by
  have hsplit : ('.' :: '/' :: (directory ++ '/' :: name)).splitOn '/' =
      [['.'], directory, name] := by
    have hparts : '.' :: '/' :: (directory ++ '/' :: name) =
        ['/'].intercalate [['.'], directory, name] := by simp
    rw [hparts, List.splitOn_intercalate]
    · simp [hdirectory.noSlash, hname.noSlash]
    · simp
  have hnames : namesOf ('.' :: '/' :: (directory ++ '/' :: name)) = [directory, name] := by
    have hleft := hdirectory.leadsDown
    have hright := hname.leadsDown
    rw [namesOf, hsplit]
    simpa using ⟨⟨hleft.1, hleft.2.1⟩, hright.1, hright.2.1⟩
  have hanchor : anchorOf ('.' :: '/' :: (directory ++ '/' :: name)) = .here := rfl
  simp [joinText, ofText, join, hanchor, hnames, child]

namespace ModuleName

variable {raw : Text} {n : ModuleName}

/-- What the root module imports the class of a module from. -/
def importSource (n : ModuleName) : Text :=
  "./" ++ n.kebab ++ "/" ++ n.kebab ++ ".module"

theorem importLine_eq_importing (n : ModuleName) :
    n.importLine = Text.importing n.moduleClass n.importSource := by
  have hfrom : " \x7d from './".toList = " \x7d from '".toList ++ "./".toList := by simp
  have hclosing : ".module';".toList = ".module".toList ++ "';".toList := by simp
  have hparts : ∀ {a b c c' c'' k s e e' e'' : Text}, c = c' ++ c'' → e = e' ++ e'' →
      a ++ b ++ c ++ k ++ s ++ k ++ e = a ++ b ++ c' ++ (c'' ++ k ++ s ++ k ++ e') ++ e'' := by
    rintro a b c c' c'' k s e e' e'' rfl rfl
    simp
  exact hparts hfrom hclosing

theorem joinText_importSource (h : derive raw = .ok n) (path : Path) :
    path.joinText (n.importSource ++ ".ts") =
      (path.child n.kebab).child (n.kebab ++ ArtifactKind.module.suffix) := by
  have hbeside : "./".toList = ['.', '/'] := by simp
  have hslash : "/".toList = ['/'] := by simp
  have hends : ".module.ts".toList = ".module".toList ++ ".ts".toList := by simp
  have hsuffix : ArtifactKind.module.suffix = ".module".toList ++ ".ts".toList := hends
  have hparts : ∀ {a b k s e e' : Text}, a = ['.', '/'] → b = ['/'] → s = e ++ e' →
      a ++ k ++ b ++ k ++ e ++ e' = '.' :: '/' :: (k ++ '/' :: (k ++ s)) := by
    rintro a b k s e e' rfl rfl rfl
    simp
  have hsource : n.importSource ++ ".ts".toList =
      '.' :: '/' :: (n.kebab ++ '/' :: (n.kebab ++ ArtifactKind.module.suffix)) :=
    hparts hbeside hslash hsuffix
  rw [hsource]
  exact path.joinText_beside (isFilename_kebab h) (isFilename_append_suffix h .module)

theorem parent_aggregatorPath {config : Config} (hdown : LeadsDown config.aggregator)
    (hslash : '/' ∉ config.aggregator) : config.aggregatorPath.parent = config.sourceRoot := by
  rw [Config.aggregatorPath, Path.joinText_of_leadsDown _ hdown hslash, Path.parent_child]

end ModuleName

/-! ## All imports -/

variable {raw : Text} {n : ModuleName} {backend : Backend}

theorem supplies_of_mem_lines (h : derive raw = .ok n) {artifact : Artifact}
    (hartifact : artifact ∈ buildArtifacts backend n) {symbols source : Text}
    (hline : Text.importing symbols ("./" ++ source) ∈ artifact.content.lines)
    (hentity : ¬ "entities/".toList <+: source) :
    Supplies (buildArtifacts backend n) symbols source := by
  obtain ⟨kind, -, rfl⟩ := List.mem_map.1 hartifact
  rw [lines_renderArtifact h] at hline
  rcases List.mem_cons.1 hline with hnil | hmem
  · have hclosing : "';".toList ≠ [] := by simp
    exact absurd (List.append_eq_nil_iff.1 hnil).2 hclosing
  · obtain ⟨line, hmem, hrender⟩ := List.mem_map.1 hmem
    exact supplies_of_importing h hmem hrender hentity

/-- The import of a module leads from beside the root module to a file that is generated
for the module and that declares its class.  Whatever a generated file imports from
beside it, but for what lies in `entities`, is declared by the file that it names, and
that file is generated too. -/
theorem imports_supplied (h : derive raw = .ok n) (backend : Backend) {config : Config}
    (hdown : LeadsDown config.aggregator) (hslash : '/' ∉ config.aggregator) :
    (∃ source, n.importLine = Text.importing n.moduleClass source ∧
      ∃ artifact ∈ buildArtifacts backend n,
        config.aggregatorPath.parent.joinText (source ++ ".ts") =
          (config.targetDirectory n).joinText artifact.filename ∧
        artifact.content.DeclaresClass n.moduleClass) ∧
    ∀ artifact ∈ buildArtifacts backend n, ∀ line ∈ artifact.content.lines,
      ∀ symbols source, line = Text.importing symbols ("./" ++ source) →
        ¬ "entities/".toList <+: source →
          Supplies (buildArtifacts backend n) symbols source := by
  constructor
  · refine ⟨n.importSource, importLine_eq_importing n, _,
      List.mem_map_of_mem (ArtifactKind.mem_all .module), ?_, declaresClass_module h⟩
    rw [parent_aggregatorPath hdown hslash, joinText_importSource h, targetDirectory_eq h,
      Path.joinText_eq_child _ (isFilename_append_suffix h .module)]
  · rintro artifact hartifact line hmem symbols source rfl hentity
    exact supplies_of_mem_lines h hartifact hmem hentity

/-- The module class imports the controller, whose file is generated beside it. -/
theorem imports_supplied_mediaUser :
    let n : ModuleName := ⟨"MediaUser", "mediaUser", "media-user"⟩
    let config : Config := { root := .ofText "work" }
    derive "mediaUser" = .ok n ∧ LeadsDown config.aggregator ∧ '/' ∉ config.aggregator ∧
      (∃ source, n.importLine = Text.importing n.moduleClass source ∧
        ∃ artifact ∈ buildArtifacts .typeorm n,
          config.aggregatorPath.parent.joinText (source ++ ".ts") =
            (config.targetDirectory n).joinText artifact.filename ∧
          artifact.content.DeclaresClass n.moduleClass) ∧
      Text.importing "MediaUserController" "./media-user.controller" ∈
        (renderArtifact .typeorm .module n).lines ∧
      Supplies (buildArtifacts .typeorm n) "MediaUserController" "media-user.controller" := by
  intro n config
  have h : derive "mediaUser" = .ok n := by decide +kernel
  have hdown : LeadsDown config.aggregator := by decide +kernel
  have hslash : '/' ∉ config.aggregator := by decide +kernel
  have hrender : TemplateLine.render n Template.importingController =
      Text.importing "MediaUserController" "./media-user.controller" := by decide +kernel
  have hsource : "./media-user.controller".toList =
      "./".toList ++ "media-user.controller".toList := by simp
  have hentity : ¬ "entities/".toList <+: "media-user.controller".toList := by simp
  have hmem : Text.importing "MediaUserController" "./media-user.controller" ∈
      (renderArtifact .typeorm .module n).lines := by
    rw [lines_renderArtifact h, ← hrender]
    exact List.mem_cons_of_mem _ (List.mem_map_of_mem (by decide +kernel))
  obtain ⟨hroot, hbeside⟩ := imports_supplied h .typeorm hdown hslash
  refine ⟨h, hdown, hslash, hroot, hmem, ?_⟩
  exact hbeside _ (List.mem_map_of_mem (ArtifactKind.mem_all .module)) _ hmem _ _
    (congrArg (Text.importing _) hsource) hentity

end ModuleScaffold
