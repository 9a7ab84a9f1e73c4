import ModuleScaffold.Proofs.ModuleName.Spellings

/-!
# Reading the class of a module off its route

The pieces of a route, with a capital each, make a class again.  It is the one that the
route was made from if each of its capitals but the first follows a small letter, since
those are the capitals that a hyphen tells of; any other capital comes back as a small
letter.  So modules whose classes are of this form have directories of their own.
-/

namespace ModuleScaffold

namespace Text

/-- The class that a route tells: its pieces with capitals in front, without the
hyphens. -/
def ofRoute (t : Text) : Text :=
  (t.splitOn '-').flatMap capitalise

/-- Every capital but one in front follows a small letter. -/
def CapitalsFollowSmall (t : Text) : Prop :=
  t.IsChain fun c d => d.isUpper = true → c.isLower = true

instance (t : Text) : Decidable t.CapitalsFollowSmall :=
  inferInstanceAs (Decidable (t.IsChain _))

/-- What a route keeps of the letters behind `c`: the capitals that have a hyphen. -/
def respelled (c : Char) : Text → Text
  | [] => []
  | d :: rest =>
    (if c.isLower = true ∧ d.isUpper = true then d else d.toLower) :: respelled d rest

theorem toUpper_toLower_of_isUpper {c : Char} (h : c.isUpper = true) :
    c.toLower.toUpper = c :=
  (toUpper_toLower (isAlphanum_of_isUpper h)).trans (toUpper_of_isUpper h)

theorem toLower_eq_self_iff {c : Char} (h : c.isAlphanum = true) :
    c.toLower = c ↔ c.isUpper = false :=
  forall_alphanum (P := fun c => c.toLower = c ↔ c.isUpper = false) h (by decide +kernel)

theorem capitalise_toLower_cons {c : Char} (h : c.isAlphanum = true) (rest : Text) :
    capitalise (c.toLower :: rest) = c.toLower.toUpper :: rest := by
  have hascii : c.toLower.toNat < 128 :=
    forall_alphanum (P := fun c => c.toLower.toNat < 128) h (by decide +kernel)
  simp [capitalise, upperCase, hascii]

theorem flatMap_capitalise_routePieces {c : Char} {rest : Text}
    (hc : c.isAlphanum = true) (hrest : ∀ d ∈ rest, d.isAlphanum = true) :
    (routePieces (c :: rest)).flatMap capitalise = c.toLower.toUpper :: respelled c rest := by
  induction rest generalizing c with
  | nil =>
      rw [routePieces_singleton hc]
      simp [capitalise_toLower_cons hc, respelled]
  | cons d rest ih =>
      rw [List.forall_mem_cons] at hrest
      have hothers := ih hrest.1 hrest.2
      rw [routePieces_cons_cons hc, respelled]
      split
      next hjoint =>
        rw [List.flatMap_cons, capitalise_toLower_cons hc, hothers,
          toUpper_toLower_of_isUpper hjoint.2]
        rfl
      next =>
        obtain ⟨more, pieces, hpieces, -⟩ := exists_routePieces_eq hrest.1 hrest.2
        rw [hpieces, List.flatMap_cons, capitalise_toLower_cons hrest.1] at hothers
        rw [hpieces, List.modifyHead_cons, List.flatMap_cons, capitalise_toLower_cons hc]
        simpa using hothers

/-- Nothing is lost where each capital has its hyphen. -/
theorem respelled_eq_self_iff {c : Char} {rest : Text}
    (hrest : ∀ d ∈ rest, d.isAlphanum = true) :
    respelled c rest = rest ↔ CapitalsFollowSmall (c :: rest) := by
  unfold CapitalsFollowSmall
  induction rest generalizing c with
  | nil => simp [respelled]
  | cons d rest ih =>
      rw [List.forall_mem_cons] at hrest
      rw [respelled, List.cons.injEq, ih hrest.2, List.isChain_cons_cons]
      refine and_congr_left fun _ => ?_
      split
      next hjoint => simp [hjoint]
      next hjoint =>
        rw [toLower_eq_self_iff hrest.1]
        cases hd : d.isUpper <;> simp_all

end Text

namespace ModuleName

variable {raw : Text} {n : ModuleName}

theorem ofRoute_kebab_eq_iff (h : derive raw = .ok n) :
    n.kebab.ofRoute = n.pascal ↔ n.pascal.CapitalsFollowSmall := by
  rw [Text.ofRoute, splitOn_kebab h]
  obtain ⟨first, rest, hfirst, hrest, rfl⟩ := exists_of_derive h
  have hclass : (Text.routePieces (first :: rest)).flatMap Text.capitalise =
      first :: Text.respelled first rest := by
    rw [Text.flatMap_capitalise_routePieces (isAlphanum_of_isUpper hfirst) hrest,
      Text.toUpper_toLower_of_isUpper hfirst]
  exact (Eq.congr_left hclass).trans
    ((List.cons_inj_right first).trans (Text.respelled_eq_self_iff hrest))

/-- The route tells the class exactly where each capital of the class but the first
follows a small letter.  Modules with such classes share no directory. -/
theorem ofRoute_kebab_eq_pascal_iff (h : derive raw = .ok n) :
    (n.kebab.ofRoute = n.pascal ↔ n.pascal.CapitalsFollowSmall) ∧
      ∀ raw' n', derive raw' = .ok n' → n.pascal.CapitalsFollowSmall →
        n'.pascal.CapitalsFollowSmall → ∀ config : Config,
          config.targetDirectory n = config.targetDirectory n' → n = n' := by
  refine ⟨ofRoute_kebab_eq_iff h, fun raw' n' h' hn hn' config hdirectory => ?_⟩
  have hkebab : n.kebab = n'.kebab := by
    rw [targetDirectory_eq h, targetDirectory_eq h'] at hdirectory
    simpa using congrArg Path.name hdirectory
  refine eq_of_pascal_eq h h' ?_
  rw [← (ofRoute_kebab_eq_iff h).2 hn, hkebab, (ofRoute_kebab_eq_iff h').2 hn']

/-- One name typed in two ways, and one whose capitals the route does not tell. -/
theorem ofRoute_kebab_eq_pascal_iff_mediaUser :
    let n := ofPascal "MediaUser"
    let n' : ModuleName := ⟨"MediaUser", "mediaUser", "media-user"⟩
    let config : Config := { root := .ofText "work" }
    derive " mediaUser\n" = .ok n ∧ derive "MediaUser" = .ok n' ∧
      n.pascal.CapitalsFollowSmall ∧ n.kebab.ofRoute = "MediaUser" ∧
      config.targetDirectory n = config.targetDirectory n' ∧ n = n' ∧
      (ofPascal "HTTPClient").kebab.ofRoute ≠ "HTTPClient" := by
  intro n n' config
  have h : derive " mediaUser\n" = .ok n := by decide +kernel
  have h' : derive "MediaUser" = .ok n' := by decide +kernel
  have hclient : derive "HTTPClient" = .ok (ofPascal "HTTPClient") := by decide +kernel
  have hclass : n.pascal.CapitalsFollowSmall := by decide +kernel
  have hcapitals : ¬ (ofPascal "HTTPClient").pascal.CapitalsFollowSmall := by
    decide +kernel
  have hdirectory : config.targetDirectory n = config.targetDirectory n' := by
    decide +kernel
  obtain ⟨htells, hsame⟩ := ofRoute_kebab_eq_pascal_iff h
  refine ⟨h, h', hclass, htells.2 hclass, hdirectory,
    hsame _ n' h' hclass hclass config hdirectory, fun heq => hcapitals ?_⟩
  exact (ofRoute_kebab_eq_pascal_iff hclient).1.1 heq

/-- Two modules with one directory. -/
example : (ofPascal "HTTPClient").kebab = (ofPascal "Httpclient").kebab := by
  decide +kernel

end ModuleName

end ModuleScaffold
