import ModuleScaffold.Config
import ModuleScaffold.Proofs.Files.Location
import ModuleScaffold.Proofs.ModuleDirectory
import ModuleScaffold.Proofs.ModuleName

/-!
# Which names are derived, and how they are spelled

What is typed is a name if it is a letter and then letters and digits, none but those
of ASCII, once the blanks around it are gone.  Its route is its class in small letters,
cut by a hyphen wherever a capital follows a small letter.  Every piece of a route
begins with a letter, since the cuts are ahead of capitals, and no piece is empty; so a
route is the name of a single directory.

The pieces of a route come with the recursion of `Text.hyphenate`: one more letter in
front is a piece of its own, or goes in front of the first piece.
-/

namespace ModuleScaffold

section Letters

variable {c : Char}

/-- A fact about letters and digits is checked one by one. -/
theorem forall_alphanum {P : Char → Prop} (h : c.isAlphanum = true)
    (hall : ∀ code < 128, (Char.ofNat code).isAlphanum = true → P (Char.ofNat code)) :
    P c :=
  forall_ascii (P := fun c => c.isAlphanum = true → P c) hall c
    (toNat_lt_of_isAlphanum h) h

theorem toLower_ne_hyphen (h : c.isAlphanum = true) : c.toLower ≠ '-' :=
  forall_alphanum (P := fun c => c.toLower ≠ '-') h (by decide +kernel)

theorem isLower_toLower (h : c.isAlpha = true) : c.toLower.isLower = true :=
  forall_alphanum (P := fun c => c.isAlpha = true → c.toLower.isLower = true)
    (isAlphanum_of_isAlpha h) (by decide +kernel) h

theorem isLower_or_isDigit_toLower (h : c.isAlphanum = true) :
    c.toLower.isLower = true ∨ c.toLower.isDigit = true :=
  forall_alphanum (P := fun c => c.toLower.isLower = true ∨ c.toLower.isDigit = true) h
    (by decide +kernel)

theorem isAlpha_of_isUpper (h : c.isUpper = true) : c.isAlpha = true := by
  have hparts : c.isAlpha = (c.isUpper || c.isLower) := rfl
  rw [hparts, h, Bool.true_or]

theorem isAlpha_of_isLower (h : c.isLower = true) : c.isAlpha = true := by
  have hparts : c.isAlpha = (c.isUpper || c.isLower) := rfl
  rw [hparts, h, Bool.or_true]

theorem toUpper_toLower (h : c.isAlphanum = true) : c.toLower.toUpper = c.toUpper :=
  forall_alphanum (P := fun c => c.toLower.toUpper = c.toUpper) h (by decide +kernel)

theorem toLower_toUpper (h : c.isAlphanum = true) : c.toUpper.toLower = c.toLower :=
  forall_alphanum (P := fun c => c.toUpper.toLower = c.toLower) h (by decide +kernel)

theorem toUpper_of_isUpper (h : c.isUpper = true) : c.toUpper = c :=
  forall_alphanum (P := fun c => c.isUpper = true → c.toUpper = c)
    (isAlphanum_of_isUpper h) (by decide +kernel) h

end Letters

/-- A letter and then letters and digits, all of them ASCII. -/
def Text.IsName (t : Text) : Prop :=
  ∃ first rest, t = first :: rest ∧ first.isAlpha = true ∧
    ∀ c ∈ rest, c.isAlphanum = true

/-- A small letter and then small letters and digits. -/
def Text.IsRoutePiece (t : Text) : Prop :=
  ∃ first rest, t = first :: rest ∧ first.isLower = true ∧
    ∀ c ∈ rest, c.isLower = true ∨ c.isDigit = true

namespace Text

/-- What stands between two neighbours: a hyphen where a small letter meets a capital. -/
def joint (c d : Char) : Text :=
  if c.isLower = true ∧ d.isUpper = true then ['-'] else []

/-- A text with its hyphens, the one ahead of it too, where it follows the letter `c`. -/
def jointed (c : Char) : Text → Text
  | [] => []
  | d :: rest => joint c d ++ d :: jointed d rest

theorem hyphenate_cons (c : Char) (rest : Text) :
    hyphenate (c :: rest) = c :: jointed c rest := by
  induction rest generalizing c with
  | nil => rfl
  | cons d rest ih =>
      rw [hyphenate, ih, jointed, joint]
      by_cases h : c.isLower = true ∧ d.isUpper = true <;> simp [h]

theorem jointed_append (b : Char) (before : Text) (c : Char) (after : Text) :
    jointed b (before ++ c :: after) = jointed b (before ++ [c]) ++ jointed c after := by
  induction before generalizing b with
  | nil => simp [jointed]
  | cons d before ih => simp [jointed, ih]

/-- What follows a letter does not change the hyphens ahead of it. -/
theorem hyphenate_append (before : Text) (c : Char) (after : Text) :
    hyphenate (before ++ c :: after) = hyphenate (before ++ [c]) ++ jointed c after := by
  cases before with
  | nil => exact hyphenate_cons c after
  | cons b before =>
      simp only [List.cons_append, hyphenate_cons]
      rw [jointed_append]

theorem exists_jointed_concat (b : Char) (before : Text) (c : Char) :
    ∃ front, jointed b (before ++ [c]) = front ++ [c] := by
  induction before generalizing b with
  | nil => exact ⟨joint b c, rfl⟩
  | cons d before ih =>
      obtain ⟨front, hfront⟩ := ih d
      exact ⟨joint b d ++ d :: front, by simp [jointed, hfront]⟩

theorem exists_hyphenate_concat (before : Text) (c : Char) :
    ∃ front, hyphenate (before ++ [c]) = front ++ [c] := by
  cases before with
  | nil => exact ⟨[], rfl⟩
  | cons b before =>
      obtain ⟨front, hfront⟩ := exists_jointed_concat b before c
      exact ⟨b :: front, by simp [hyphenate_cons, hfront]⟩

theorem filter_joint (c d : Char) : (joint c d).filter (· ≠ '-') = [] := by
  unfold joint
  split <;> rfl

theorem filter_jointed {rest : Text} (c : Char) (h : '-' ∉ rest) :
    (jointed c rest).filter (· ≠ '-') = rest := by
  induction rest generalizing c with
  | nil => rfl
  | cons d rest ih =>
      rw [List.mem_cons, not_or] at h
      rw [jointed, List.filter_append, filter_joint, List.nil_append,
        List.filter_cons_of_pos (by simpa using Ne.symm h.1), ih d h.2]

/-- Without its hyphens a hyphenated text is as it was. -/
theorem filter_hyphenate {t : Text} (h : '-' ∉ t) :
    (hyphenate t).filter (· ≠ '-') = t := by
  cases t with
  | nil => rfl
  | cons c rest =>
      rw [List.mem_cons, not_or] at h
      rw [hyphenate_cons, List.filter_cons_of_pos (by simpa using Ne.symm h.1),
        filter_jointed c h.2]

/-- The pieces between the hyphens of a route. -/
def routePieces (t : Text) : List Text :=
  ((hyphenate t).map Char.toLower).splitOn '-'

theorem routePieces_singleton {c : Char} (hc : c.isAlphanum = true) :
    routePieces [c] = [[c.toLower]] :=
  List.splitOn_eq_singleton (by simpa [hyphenate] using Ne.symm (toLower_ne_hyphen hc))

/-- A letter in front is a piece of its own, or goes in front of the first piece. -/
theorem routePieces_cons_cons {c d : Char} {rest : Text} (hc : c.isAlphanum = true) :
    routePieces (c :: d :: rest) =
      if c.isLower = true ∧ d.isUpper = true then
        [c.toLower] :: routePieces (d :: rest)
      else
        (routePieces (d :: rest)).modifyHead (c.toLower :: ·) := by
  have hne : (c.toLower == '-') = false := by simpa using toLower_ne_hyphen hc
  rw [routePieces, routePieces, hyphenate_cons, hyphenate_cons, jointed, joint]
  split
  · have hhyphen : Char.toLower '-' = '-' := by decide
    simp [List.splitOn_cons_eq_if_modifyHead, hne, hhyphen]
  · simp [List.splitOn_cons_eq_if_modifyHead, hne]

/-- The pieces of a route, by induction on the letters behind the first one: the first
piece begins where the text does, the others where a capital was. -/
theorem exists_routePieces_eq {c : Char} {rest : Text} (hc : c.isAlphanum = true)
    (hrest : ∀ d ∈ rest, d.isAlphanum = true) :
    ∃ more pieces, routePieces (c :: rest) = (c.toLower :: more) :: pieces ∧
      (∀ d ∈ more, d.isLower = true ∨ d.isDigit = true) ∧
        ∀ piece ∈ pieces, IsRoutePiece piece := by
  induction rest generalizing c with
  | nil => exact ⟨[], [], routePieces_singleton hc, nofun, nofun⟩
  | cons d rest ih =>
      rw [List.forall_mem_cons] at hrest
      obtain ⟨more, pieces, hpieces, hmore, hothers⟩ := ih hrest.1 hrest.2
      rw [routePieces_cons_cons hc, hpieces]
      split
      next hjoint =>
        refine ⟨[], _, rfl, nofun, ?_⟩
        rw [List.forall_mem_cons]
        exact ⟨⟨d.toLower, more, rfl, isLower_toLower (isAlpha_of_isUpper hjoint.2), hmore⟩,
          hothers⟩
      next =>
        refine ⟨d.toLower :: more, pieces, rfl, ?_, hothers⟩
        rw [List.forall_mem_cons]
        exact ⟨isLower_or_isDigit_toLower hrest.1, hmore⟩

end Text

/-- How the name that was typed as `t` is spelled. -/
structure ModuleName.Spells (n : ModuleName) (t : Text) : Prop where
  pascal : n.pascal = t.modifyHead Char.toUpper
  camel : n.camel = n.pascal.modifyHead Char.toLower
  letters : n.kebab.filter (· ≠ '-') = n.pascal.map Char.toLower
  /-- Between two neighbours of the class there is at most a hyphen in the route, and
  there is one where a small letter meets a capital. -/
  hyphens : ∀ before c d after, n.pascal = before ++ c :: d :: after →
    ∃ front back,
      n.kebab = front ++ c.toLower :: (Text.joint c d ++ d.toLower :: back) ∧
        front.filter (· ≠ '-') = before.map Char.toLower
  pieces : ∀ piece ∈ n.kebab.splitOn '-', Text.IsRoutePiece piece

namespace ModuleName

variable {raw : Text} {n : ModuleName}

theorem splitOn_kebab (h : derive raw = .ok n) :
    n.kebab.splitOn '-' = n.pascal.routePieces := by
  rw [kebab_eq_map h, Text.routePieces]

theorem hyphen_not_mem_pascal (h : derive raw = .ok n) : '-' ∉ n.pascal := by
  intro hmem
  exact absurd (isAlphanum_of_mem_pascal h '-' hmem) (by decide)

/-- Small letters have their hyphens where the letters had them. -/
theorem filter_map_toLower (h : derive raw = .ok n) {t : Text}
    (ht : ∀ c ∈ t, c = '-' ∨ c ∈ n.pascal) :
    (t.map Char.toLower).filter (· ≠ '-') = (t.filter (· ≠ '-')).map Char.toLower := by
  rw [List.filter_map]
  refine congrArg _ (List.filter_congr fun c hc => ?_)
  rcases ht c hc with rfl | hpascal
  · decide
  · have hne : c ≠ '-' := fun heq => hyphen_not_mem_pascal h (heq ▸ hpascal)
    simpa [hne] using toLower_ne_hyphen (isAlphanum_of_mem_pascal h c hpascal)

theorem filter_kebab (h : derive raw = .ok n) :
    n.kebab.filter (· ≠ '-') = n.pascal.map Char.toLower := by
  rw [kebab_eq_map h, filter_map_toLower h fun c => Text.mem_hyphenate,
    Text.filter_hyphenate (hyphen_not_mem_pascal h)]

theorem exists_kebab_eq (h : derive raw = .ok n) {before after : Text} {c d : Char}
    (hpascal : n.pascal = before ++ c :: d :: after) :
    ∃ front back,
      n.kebab = front ++ c.toLower :: (Text.joint c d ++ d.toLower :: back) ∧
        front.filter (· ≠ '-') = before.map Char.toLower := by
  obtain ⟨front, hfront⟩ := Text.exists_hyphenate_concat before c
  have hjoint : (Text.joint c d).map Char.toLower = Text.joint c d := by
    unfold Text.joint
    split <;> rfl
  have hopening : '-' ∉ before ++ [c] := fun hmem => by
    refine hyphen_not_mem_pascal h ?_
    rw [hpascal, List.append_cons]
    exact List.mem_append_left _ hmem
  refine ⟨front.map Char.toLower, (Text.jointed d after).map Char.toLower, ?_, ?_⟩
  · rw [kebab_eq_map h, hpascal, Text.hyphenate_append, hfront, Text.jointed]
    simp [hjoint]
  · have hletters : front.filter (· ≠ '-') = before := by
      have hconcat := Text.filter_hyphenate hopening
      rw [hfront, List.filter_append] at hconcat
      have hc : c ≠ '-' := fun heq => hopening (by simp [heq])
      simpa [hc] using hconcat
    rw [filter_map_toLower h fun b hb => ?_, hletters]
    have hmem : b ∈ Text.hyphenate (before ++ [c]) := by
      rw [hfront]
      exact List.mem_append_left _ hb
    refine (Text.mem_hyphenate hmem).imp_right fun hopened => ?_
    rw [hpascal, List.append_cons]
    exact List.mem_append_left _ hopened

theorem spells_of_derive (h : derive raw = .ok n) : n.Spells raw.trim := by
  obtain ⟨first, rest, htrim, hfirst, hrest, rfl⟩ := derive_eq_ok_iff.1 h
  have hupper := isUpper_toUpper hfirst
  have halphanum := isAlphanum_of_isUpper hupper
  refine ⟨by rw [htrim]; rfl, ?_, filter_kebab h, fun _ _ _ _ => exists_kebab_eq h, ?_⟩
  · have hlower : Text.lowerCase [first.toUpper] = [first.toUpper.toLower] :=
      Text.lowerCaseAfter_eq_map [] (by simpa using toNat_lt_of_isAlphanum halphanum)
    rw [ofPascal, Text.camelCase, Text.uncapitalise, hlower]
    rfl
  · obtain ⟨more, pieces, hpieces, hmore, hothers⟩ :=
      Text.exists_routePieces_eq halphanum hrest
    have hroute : (ofPascal (first.toUpper :: rest)).kebab.splitOn '-' =
        (first.toUpper.toLower :: more) :: pieces :=
      (splitOn_kebab h).trans hpieces
    rw [hroute, List.forall_mem_cons]
    exact ⟨⟨_, more, rfl, isLower_toLower (isAlpha_of_isUpper hupper), hmore⟩, hothers⟩

theorem isAlphanum_of_mem_camel (h : derive raw = .ok n) :
    ∀ c ∈ n.camel, c.isAlphanum = true := by
  have hcamel := (spells_of_derive h).camel
  obtain ⟨first, rest, hfirst, hrest, rfl⟩ := exists_of_derive h
  have hsmall := isLower_toLower (isAlpha_of_isUpper hfirst)
  rw [hcamel]
  exact List.forall_mem_cons.2
    ⟨isAlphanum_of_isAlpha (isAlpha_of_isLower hsmall), hrest⟩

/-- The line feed that may follow an identifier is trimmed ahead of the search for it. -/
theorem exists_derive_iff : (∃ n, derive raw = .ok n) ↔ Text.IsName raw.trim := by
  constructor
  · rintro ⟨n, h⟩
    obtain ⟨first, rest, htrim, hfirst, hrest, -⟩ := derive_eq_ok_iff.1 h
    exact ⟨first, rest, htrim, hfirst, hrest⟩
  · rintro ⟨first, rest, htrim, hfirst, hrest⟩
    exact ⟨_, derive_eq_ok_iff.2 ⟨first, rest, htrim, hfirst, hrest, rfl⟩⟩

theorem exists_derive_error_iff :
    (∃ reason, derive raw = .error ⟨raw, reason⟩) ↔ ¬ Text.IsName raw.trim := by
  rw [← exists_derive_iff]
  constructor
  · rintro ⟨reason, herror⟩ ⟨n, hok⟩
    cases herror.symm.trans hok
  · intro h
    unfold derive at h ⊢
    simp only at h ⊢
    split
    · exact ⟨_, rfl⟩
    next hname =>
      rw [if_neg hname] at h
      split
      next hident =>
        rw [if_pos hident] at h
        exact absurd ⟨_, rfl⟩ h
      next => exact ⟨_, rfl⟩

/-- The directory of a module lies in the source directory. -/
theorem targetDirectory_eq (h : derive raw = .ok n) (config : Config) :
    config.targetDirectory n = config.sourceRoot.child n.kebab :=
  Path.joinText_eq_child _ (isFilename_kebab h)

/-- A name is derived exactly from what is a letter and then letters and digits, blanks
around it aside; anything else is refused as it was typed.  Its spellings are those of
`Spells`, and wherever the sources are, its directory lies in them and has the route as
its name. -/
theorem derive_accepts_iff (raw : Text) :
    ((∃ n, derive raw = .ok n) ↔ Text.IsName raw.trim) ∧
      ((∃ reason, derive raw = .error ⟨raw, reason⟩) ↔ ¬ Text.IsName raw.trim) ∧
      ∀ n, derive raw = .ok n → n.Spells raw.trim ∧ ∀ config : Config,
        (config.targetDirectory n).parent = config.sourceRoot ∧
          (config.targetDirectory n).name = n.kebab := by
  refine ⟨exists_derive_iff, exists_derive_error_iff, fun n h => ?_⟩
  refine ⟨spells_of_derive h, fun config => ?_⟩
  rw [targetDirectory_eq h]
  exact ⟨Path.parent_child _ _, Path.name_child _ _⟩

end ModuleName

end ModuleScaffold
