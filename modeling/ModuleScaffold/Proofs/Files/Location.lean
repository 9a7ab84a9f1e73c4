import ModuleScaffold.Proofs.Files.Action

/-!
# The entries of a directory by their paths

A path with one more name behind it leads to an entry of the directory that it
leads to, and every path that leads to anything but the place it starts from is
such a path.  This carries what is known of a directory over to the paths of its
entries: to the file beside another one, and to what is created in it.

Writing a file leaves every path to a file leading where it led, and the entry that
such a path ends in can be moved over that of another one.
-/

namespace ModuleScaffold

/-- A name that an entry of a directory can have. -/
structure IsEntryName (name : Text) : Prop where
  leadsDown : LeadsDown name
  short : isTooLong name = false
  clean : '\x00' ∉ name

/-- A name that is a path of its own. -/
structure IsFilename (name : Text) : Prop where
  leadsDown : LeadsDown name
  noSlash : '/' ∉ name
  clean : '\x00' ∉ name

instance (name : Text) : Decidable (LeadsDown name) :=
  inferInstanceAs (Decidable (_ ∧ _))

instance (name : Text) : Decidable (IsFilename name) :=
  decidable_of_iff (LeadsDown name ∧ '/' ∉ name ∧ '\x00' ∉ name)
    ⟨fun h => ⟨h.1, h.2.1, h.2.2⟩, fun h => ⟨h.leadsDown, h.noSlash, h.clean⟩⟩

theorem IsFilename.isEntryName {name : Text} (h : IsFilename name)
    (hshort : isTooLong name = false) : IsEntryName name :=
  ⟨h.leadsDown, hshort, h.clean⟩

/-- The path of an entry in the directory of a path. -/
def Path.child (path : Path) (name : Text) : Path :=
  { path with names := path.names ++ [name] }

namespace Path

theorem joinText_of_leadsDown (path : Path) {name : Text} (hdown : LeadsDown name)
    (hslash : '/' ∉ name) : path.joinText name = path.child name := by
  have hanchor : anchorOf name = .here := by
    unfold anchorOf
    split <;> simp_all
  have hnames : namesOf name = [name] := by
    rw [namesOf, List.splitOn_eq_singleton hslash]
    simpa using And.intro hdown.1 hdown.2.1
  simp [joinText, ofText, join, hanchor, hnames, child]

theorem joinText_eq_child (path : Path) {name : Text} (hname : IsFilename name) :
    path.joinText name = path.child name :=
  joinText_of_leadsDown path hname.leadsDown hname.noSlash

/-- A character of a text but the slash stands between two slashes. -/
theorem exists_mem_splitOn {c : Char} {t : Text} (hmem : c ∈ t) (hslash : c ≠ '/') :
    ∃ name ∈ t.splitOn '/', c ∈ name := by
  induction t with
  | nil => contradiction
  | cons d rest ih =>
      rw [List.splitOn_cons_eq_if_modifyHead]
      split
      next hd =>
        have hrest : c ∈ rest := by simpa [hslash, beq_iff_eq.1 hd] using hmem
        obtain ⟨name, hname, hc⟩ := ih hrest
        exact ⟨name, List.mem_cons_of_mem _ hname, hc⟩
      next =>
        cases hsplit : rest.splitOn '/' with
        | nil => exact absurd hsplit (List.splitOn_ne_nil _ _)
        | cons first others =>
            rw [hsplit] at ih
            rcases List.mem_cons.1 hmem with rfl | hrest
            · exact ⟨_, List.mem_cons_self, List.mem_cons_self⟩
            · obtain ⟨name, hname, hc⟩ := ih hrest
              rcases List.mem_cons.1 hname with rfl | hothers
              · exact ⟨_, List.mem_cons_self, List.mem_cons_of_mem _ hc⟩
              · exact ⟨name, List.mem_cons_of_mem _ hothers, hc⟩

theorem IsClean.of_ofText {t : Text} (h : (ofText t).IsClean) : '\x00' ∉ t := by
  intro hmem
  obtain ⟨name, hname, hnull⟩ := exists_mem_splitOn hmem (by decide)
  have hkept : name ∈ (ofText t).names := by
    refine List.mem_filter.2 ⟨hname, ?_⟩
    have hdot : name ≠ ['.'] := by
      rintro rfl
      exact absurd hnull (by decide)
    simpa [hdot] using List.ne_nil_of_mem hnull
  exact h name hkept hnull

theorem withName_child (path : Path) (name other : Text) :
    (path.child name).withName other = path.child other := by
  simp [withName, child]

@[simp] theorem name_child (path : Path) (name : Text) :
    (path.child name).name = name := by
  simp [Path.name, child]

@[simp] theorem parent_child (path : Path) (name : Text) :
    (path.child name).parent = path := by
  simp [parent, child]

theorem eq_child {path : Path} (hnames : path.names ≠ []) :
    path = path.parent.child path.name := by
  obtain ⟨anchor, names⟩ := path
  have hlast : names.getLast?.getD [] = names.getLast hnames := by
    rw [List.getLast?_eq_some_getLast hnames, Option.getD_some]
  simp [parent, child, Path.name, hlast, List.dropLast_concat_getLast]

theorem lineage_child (path : Path) (name : Text) :
    (path.child name).lineage = path.child name :: path.lineage := by
  simp only [lineage, child, List.length_append, List.length_singleton]
  rw [List.range_succ, List.reverse_append]
  simp only [List.reverse_singleton, List.singleton_append, List.map_cons]
  rw [List.take_of_length_le (by simp)]
  refine congrArg _ (List.map_congr_left fun k hk => ?_)
  rw [List.mem_reverse, List.mem_range] at hk
  rw [List.take_append_of_le_length (by omega)]

theorem isClean_child {path : Path} {name : Text} :
    (path.child name).IsClean ↔ path.IsClean ∧ '\x00' ∉ name := by
  simp [IsClean, child, or_imp, forall_and]

end Path

namespace FileTree

variable {tree tree' tree'' : FileTree} {place : Location}

theorem Keeps.refl (tree : FileTree) : tree.Keeps tree := fun _ _ h => h

theorem Keeps.trans (h : tree.Keeps tree') (h' : tree'.Keeps tree'') :
    tree.Keeps tree'' :=
  fun place entry hfound => h' place entry (h place entry hfound)

theorem ne_nil_of_get?_eq_none (hplace : tree.get? place = none) : place ≠ [] := by
  rintro rfl
  contradiction

theorem keeps_put (hplace : tree.get? place = none) (entry : Entry) :
    tree.Keeps (tree.put place entry) := by
  intro other found hfound
  rw [get?_put tree (ne_nil_of_get?_eq_none hplace)]
  split
  next h =>
    subst h
    rw [hplace] at hfound
    contradiction
  next => exact hfound

theorem isRooted_iff (tree : FileTree) :
    tree.IsRooted ↔ ∀ found ∈ tree.entries, found.1 ≠ [] →
      tree.get? found.1.dropLast = some .directory := by
  constructor
  · rintro hrooted ⟨place, entry⟩ hfound hroot
    refine hrooted.dropLast fun hnone => ?_
    rw [get?, if_neg hroot, List.lookup_eq_none_iff] at hnone
    simpa using hnone _ hfound
  · intro hentries place name hfound
    rw [get?, if_neg (by simp)] at hfound
    obtain ⟨entry, hlookup⟩ := Option.ne_none_iff_exists'.1 hfound
    obtain ⟨_, _, hsplit, -⟩ := List.lookup_eq_some_iff.1 hlookup
    simpa using hentries (place ++ [name], entry) (by simp [hsplit]) (by simp)

instance (tree : FileTree) : Decidable tree.IsRooted :=
  decidable_of_iff _ tree.isRooted_iff.symm

/-- An entry that is put into a directory, not in place of one, lies in it. -/
theorem IsRooted.put {parent : Location} {name : Text} (hrooted : tree.IsRooted)
    (hparent : tree.get? parent = some .directory)
    (hplace : tree.get? (parent ++ [name]) ≠ some .directory) (entry : Entry) :
    (tree.put (parent ++ [name]) entry).IsRooted := by
  intro other last hfound
  rw [get?_put tree (by simp)] at hfound
  rw [get?_put tree (by simp)]
  split at hfound
  next h =>
    obtain ⟨rfl, -⟩ := List.append_inj' h rfl
    rw [if_neg (by simp), hparent]
  next =>
    have hother := hrooted other last hfound
    rw [if_neg (by rintro rfl; exact hplace hother), hother]

/-- A file can be written at a place: there is one already, or nothing. -/
def Writable (tree : FileTree) (place : Location) : Prop :=
  tree.get? place = none ∨
    ∃ bytes permissions, tree.get? place = some (.file bytes permissions)

theorem Writable.ne_nil (h : tree.Writable place) : place ≠ [] := by
  rintro rfl
  simp [Writable] at h

/-- A new file can be written at a place: there is nothing, or a file with the bits of a
new one. -/
def TakesNew (tree : FileTree) (place : Location) : Prop :=
  tree.get? place = none ∨
    ∃ bytes, tree.get? place = some (.file bytes newFilePermissions)

theorem TakesNew.writable (h : tree.TakesNew place) : tree.Writable place :=
  h.imp_right fun ⟨bytes, hfile⟩ => ⟨bytes, _, hfile⟩

/-- A file that is written changes no other kind of entry. -/
theorem Writable.keepsKinds_put (h : tree.Writable place) (bytes : ByteArray)
    (permissions : Nat) : tree.KeepsKinds (tree.put place (.file bytes permissions)) := by
  have hput := get?_put tree h.ne_nil (.file bytes permissions)
  refine ⟨fun other hother => ?_, fun other target hother => ?_,
    fun other bytes' permissions' hother => ?_⟩
  · rw [hput, if_neg, hother]
    rintro rfl
    simp [Writable, hother] at h
  · rw [hput, if_neg, hother]
    rintro rfl
    simp [Writable, hother] at h
  · rw [hput]
    split
    · exact ⟨bytes, permissions, rfl⟩
    · exact ⟨bytes', permissions', hother⟩

/-- The entry that is put last counts. -/
theorem put_put (tree : FileTree) (place : Location) (entry entry' : Entry) :
    (tree.put place entry).put place entry' = tree.put place entry' := by
  simp [put, erase]

end FileTree

namespace Session

/-- Every entry lies in a directory, and the current directory is one. -/
structure IsSound (s : Session) : Prop where
  rooted : s.tree.IsRooted
  here : s.tree.get? s.here = some .directory

instance (s : Session) : Decidable s.IsSound :=
  decidable_of_iff (s.tree.IsRooted ∧ s.tree.get? s.here = some .directory)
    ⟨fun h => ⟨h.1, h.2⟩, fun h => ⟨h.rooted, h.here⟩⟩

variable {s s' : Session} {goal : Goal} {path : Path} {name : Text}
  {place place' : Location}

/-- Where a path starts from. -/
def origin (s : Session) (path : Path) : Location :=
  if path.anchor = .here then s.here else []

theorem locate_of_isClean (hclean : path.IsClean) :
    s.locate goal path =
      (s.tree.follow goal maxLinks (s.origin path) path.names).mapError
        (.refused · path) := by
  have hnull : (path.names.any fun name => '\x00' ∈ name) = false := by
    simpa [Path.IsClean] using hclean
  rw [locate, hnull]
  rfl

theorem locate_of_not_isClean (hclean : ¬ path.IsClean) :
    s.locate goal path = .error .nullCharacter := by
  have hnull : (path.names.any fun name => '\x00' ∈ name) = true := by
    simpa [Path.IsClean] using hclean
  rw [locate, if_pos hnull]

theorem locate_eq_ok_iff :
    s.locate goal path = .ok place ↔
      path.IsClean ∧ ∃ links,
        s.tree.Leads goal maxLinks (s.origin path) path.names links place := by
  by_cases hclean : path.IsClean
  · rw [locate_of_isClean hclean, ← FileTree.follow_eq_ok_iff]
    cases s.tree.follow goal maxLinks (s.origin path) path.names <;>
      simp [Except.mapError, hclean]
  · simp [locate_of_not_isClean hclean, hclean]

/-- A path without the null character is only ever refused. -/
theorem exists_cause_of_locate {f : Failure} (hclean : path.IsClean)
    (h : s.locate goal path = .error f) :
    ∃ cause, f = .refused cause path := by
  rw [locate_of_isClean hclean] at h
  cases hfollow : s.tree.follow goal maxLinks (s.origin path) path.names with
  | ok place => simp [hfollow, Except.mapError] at h
  | error cause =>
      simp only [hfollow, Except.mapError, Except.error.injEq] at h
      exact ⟨cause, h.symm⟩

theorem locate_error_cases {f : Failure} (h : s.locate goal path = .error f) :
    f = .nullCharacter ∨ ∃ cause, f = .refused cause path := by
  by_cases hclean : path.IsClean
  · exact .inr (exists_cause_of_locate hclean h)
  · rw [locate_of_not_isClean hclean] at h
    exact .inl (Except.error.inj h).symm

theorem origin_child (s : Session) (path : Path) (name : Text) :
    s.origin (path.child name) = s.origin path := rfl

theorem all_isEmpty_singleton (hname : LeadsDown name) :
    [name].all List.isEmpty = false := by
  simpa using hname.1

theorem IsSound.origin (hs : s.IsSound) (path : Path) :
    s.tree.get? (s.origin path) = some .directory := by
  unfold Session.origin
  split
  · exact hs.here
  · rfl

/-- The path leads to a directory, links followed. -/
structure IsDirectoryAt (s : Session) (path : Path) (place : Location) : Prop where
  locate : s.locate .target path = .ok place
  found : s.tree.get? place = some .directory

/-- Where a path leads depends on the tree and the current directory only. -/
theorem locate_congr (htree : s'.tree = s.tree) (hhere : s'.here = s.here) :
    s'.locate goal path = s.locate goal path := by
  rw [locate, locate, htree, hhere]

theorem found?_congr (htree : s'.tree = s.tree) (hhere : s'.here = s.here) :
    s'.found? path = s.found? path := by
  rw [found?, found?, locate_congr htree hhere, htree]

theorem IsDirectoryAt.congr (h : s.IsDirectoryAt path place)
    (htree : s'.tree = s.tree) (hhere : s'.here = s.here) :
    s'.IsDirectoryAt path place :=
  ⟨(locate_congr htree hhere).trans h.locate, htree ▸ h.found⟩

theorem IsSound.congr (hs : s.IsSound) (htree : s'.tree = s.tree)
    (hhere : s'.here = s.here) : s'.IsSound :=
  ⟨htree ▸ hs.rooted, by rw [htree, hhere, hs.here]⟩

theorem IsDirectoryAt.unique (h : s.IsDirectoryAt path place)
    (h' : s.IsDirectoryAt path place') : place = place' :=
  Except.ok.inj (h.locate.symm.trans h'.locate)

/-- An entry of a directory is found by its name, unless it is a link to be
followed. -/
theorem IsDirectoryAt.locate_child (h : s.IsDirectoryAt path place)
    (hname : IsEntryName name)
    (hlink : goal = .entry ∨
      ∀ target, s.tree.get? (place ++ [name]) ≠ some (.link target)) :
    s.locate goal (path.child name) = .ok (place ++ [name]) := by
  obtain ⟨hpath, links, hleads⟩ := locate_eq_ok_iff.1 h.locate
  refine locate_eq_ok_iff.2 ⟨Path.isClean_child.2 ⟨hpath, hname.clean⟩, links, ?_⟩
  exact hleads.append h.found (all_isEmpty_singleton hname.leadsDown)
    (FileTree.leads_last links h.found hname.leadsDown hname.short hlink)

theorem locate_child_cases (h : s.locate goal (path.child name) = .ok place')
    (hname : LeadsDown name) :
    ∃ place, s.IsDirectoryAt path place ∧ IsEntryName name ∧
      (place' = place ++ [name] ∨ goal ≠ .entry ∧
        ∃ target, s.tree.get? (place ++ [name]) = some (.link target)) := by
  obtain ⟨hclean, links', hleads⟩ := locate_eq_ok_iff.1 h
  obtain ⟨hpath, hnull⟩ := Path.isClean_child.1 hclean
  obtain ⟨links, place, hdirectory, hparent, hlast⟩ :=
    hleads.exists_of_append (List.cons_ne_nil _ _)
  obtain ⟨-, hshort, hplace⟩ := hlast.last_cases hname
  exact ⟨place, ⟨locate_eq_ok_iff.2 ⟨hpath, links, hparent⟩, hdirectory⟩,
    ⟨hname, hshort, hnull⟩, hplace⟩

/-- A path ends in the directory of its last name, the one above, or an entry. -/
theorem IsDirectoryAt.locate_entry_cases (hparent : s.IsDirectoryAt path.parent place)
    (h : s.locate .entry path = .ok place') :
    place' = place ∨ place' = place.dropLast ∨ place' = place ++ [path.name] := by
  obtain ⟨-, links, hleads⟩ := locate_eq_ok_iff.1 h
  obtain ⟨hclean, _, hdirectory⟩ := locate_eq_ok_iff.1 hparent.locate
  by_cases hnames : path.names = []
  · have hnil : path.parent.names = [] := by rw [Path.parent, hnames]; rfl
    rw [hnames] at hleads
    rw [hnil] at hdirectory
    cases hleads
    cases hdirectory
    exact .inl rfl
  · rw [Path.eq_child hnames] at hleads
    obtain ⟨_, other, hother, hfirst, hlast⟩ :=
      hleads.exists_of_append (List.cons_ne_nil _ _)
    have hsame : s.IsDirectoryAt path.parent other :=
      ⟨locate_eq_ok_iff.2 ⟨hclean, _, hfirst⟩, hother⟩
    rw [hparent.unique hsame]
    exact hlast.last_entry_cases

/-- A path to anything but a directory leads through one, to an entry of it. -/
theorem IsSound.exists_child (hs : s.IsSound) (h : s.locate goal path = .ok place')
    (hplace : s.tree.get? place' ≠ some .directory) :
    ∃ parent name place, path = parent.child name ∧ s.IsDirectoryAt parent place ∧
      IsEntryName name ∧ (place' = place ++ [name] ∨ goal ≠ .entry ∧
        ∃ target, s.tree.get? (place ++ [name]) = some (.link target)) := by
  obtain ⟨-, links, hleads⟩ := locate_eq_ok_iff.1 h
  have hnames : path.names ≠ [] := by
    intro hnil
    rw [hnil] at hleads
    cases hleads
    exact hplace (hs.origin path)
  have hpath := Path.eq_child hnames
  rw [hpath] at h hleads
  obtain ⟨place, hcases⟩ := locate_child_cases h (hleads.leadsDown_last hs.rooted hplace)
  exact ⟨path.parent, path.name, place, hpath, hcases⟩

/-- A directory holds the place where a path leads to nothing. -/
theorem IsSound.exists_directory (hs : s.IsSound)
    (h : s.locate .entry path = .ok place') (hplace : s.tree.get? place' = none) :
    ∃ place name, place' = place ++ [name] ∧
      s.tree.get? place = some .directory := by
  obtain ⟨_, name, place, -, hparent, -, hcases⟩ := hs.exists_child h (by simp [hplace])
  exact ⟨place, name, hcases.resolve_right fun hlink => hlink.1 rfl, hparent.found⟩

/-- What is found at the end of a path with one more name lies in the directory. -/
theorem IsDirectoryAt.found?_child (h : s.IsDirectoryAt path place)
    (hname : IsEntryName name) :
    s.found? (path.child name) = s.tree.get? (place ++ [name]) := by
  rw [found?, h.locate_child hname (.inl rfl)]

/-- A text is written to an entry of a directory that takes a new file. -/
theorem IsDirectoryAt.run_writeText (h : s.IsDirectoryAt path place)
    (hname : IsEntryName name) (hfree : s.tree.TakesNew (place ++ [name])) (t : Text) :
    s.run (writeText (path.child name) t) =
      (.ok (), { s with
        tree := s.tree.put (place ++ [name]) (.file t.encode newFilePermissions) }) := by
  have hlocate : s.locate .file (path.child name) = .ok (place ++ [name]) := by
    refine h.locate_child hname (.inr fun target => ?_)
    rcases hfree with hnone | ⟨bytes, hfile⟩
    · simp [hnone]
    · simp [hfile]
  rw [writeText, run_write, hlocate]
  rcases hfree with hnone | ⟨bytes, hfile⟩
  · simp only [hnone]
  · simp only [hfile]

/-- Bytes are written to a file, which keeps its bits, or to where there is nothing, or
not at all. -/
theorem run_write_cases (s : Session) (path : Path) (bytes : ByteArray) :
    (∃ f, s.run (FileAccess.write path bytes) = (.error f, s)) ∨
      ∃ place permissions, s.locate .file path = .ok place ∧ s.tree.Writable place ∧
        (∀ present bits, s.tree.get? place = some (.file present bits) →
          bits = permissions) ∧
        s.run (FileAccess.write path bytes) =
          (.ok (), { s with tree := s.tree.put place (.file bytes permissions) }) := by
  rw [run_write]
  cases hplace : s.locate .file path with
  | error f => exact .inl ⟨f, rfl⟩
  | ok place =>
      rcases hfound : s.tree.get? place with _ | _ | ⟨present, permissions⟩ | _
      · exact .inr ⟨place, newFilePermissions, rfl, .inl hfound, by simp [hfound],
          by simp only [hfound]⟩
      · exact .inl ⟨.refused .isDirectory path, by simp only [hfound]⟩
      · exact .inr ⟨place, permissions, rfl, .inr ⟨present, permissions, hfound⟩,
          by simp [hfound], by simp only [hfound]⟩
      · exact .inl ⟨.refused .isDirectory path, by simp only [hfound]⟩

/-- A file or a link is removed, or nothing. -/
theorem run_remove_cases (s : Session) (path : Path) :
    (∃ f, s.run (FileAccess.remove path) = (.error f, s)) ∨
      ∃ place entry, s.locate .entry path = .ok place ∧
        s.tree.get? place = some entry ∧ entry ≠ .directory ∧
        s.run (FileAccess.remove path) =
          (.ok (), { s with tree := s.tree.erase place }) := by
  rw [run_remove]
  cases hplace : s.locate .entry path with
  | error f => exact .inl ⟨f, rfl⟩
  | ok place =>
      rcases hfound : s.tree.get? place with _ | _ | ⟨bytes, permissions⟩ | target
      · exact .inl ⟨.refused .notFound path, by simp only [hfound]⟩
      · exact .inl ⟨.refused .isDirectory path, by simp only [hfound]⟩
      · exact .inr ⟨place, _, rfl, hfound, by simp, by simp only [hfound]⟩
      · exact .inr ⟨place, _, rfl, hfound, by simp, by simp only [hfound]⟩

/-- A file or a link is moved to where no directory is, or nothing is done. -/
theorem run_move_cases (s : Session) (source target : Path) :
    (∃ f, s.run (FileAccess.move source target) = (.error f, s)) ∨
      ∃ origin goal entry, s.locate .entry source = .ok origin ∧
        s.locate .entry target = .ok goal ∧ s.tree.get? origin = some entry ∧
        s.tree.get? goal ≠ some .directory ∧
        s.run (FileAccess.move source target) =
          (.ok (), { s with tree := (s.tree.erase origin).put goal entry }) := by
  rw [run_move]
  cases horigin : s.locate .entry source with
  | error f => exact .inl ⟨f, rfl⟩
  | ok origin =>
      cases hgoal : s.locate .entry target with
      | error f => exact .inl ⟨f, rfl⟩
      | ok goal =>
          dsimp only
          rcases hfound : s.tree.get? origin with _ | _ | _ | _
          · exact .inl ⟨_, rfl⟩
          · exact .inl ⟨_, rfl⟩
          all_goals
            dsimp only
            split
            · exact .inl ⟨_, rfl⟩
            next hfree => exact .inr ⟨origin, goal, _, rfl, rfl, hfound, hfree, rfl⟩

theorem locate_of_keepsKinds (hkinds : s.tree.KeepsKinds s'.tree)
    (hhere : s'.here = s.here) (h : s.locate goal path = .ok place)
    (hend : s.tree.get? place = none →
      goal = .entry ∨ ∀ target, s'.tree.get? place ≠ some (.link target)) :
    s'.locate goal path = .ok place := by
  rw [locate_eq_ok_iff] at h ⊢
  obtain ⟨hclean, links, hleads⟩ := h
  have horigin : s'.origin path = s.origin path := by rw [origin, hhere]; rfl
  exact ⟨hclean, links, horigin ▸ hleads.of_keepsKinds hkinds hend⟩

/-- Entries that are added elsewhere do not change where a path leads. -/
theorem locate_of_keeps (hkeeps : s.tree.Keeps s'.tree) (hhere : s'.here = s.here)
    (h : s.locate goal path = .ok place)
    (hfound : goal = .entry ∨ s.tree.get? place ≠ none) :
    s'.locate goal path = .ok place :=
  locate_of_keepsKinds hkeeps.keepsKinds hhere h fun hnone =>
    hfound.imp_right fun hsome => absurd hnone hsome

/-- The directories and the links of a session are still there in another one. -/
structure KeepsWays (s s' : Session) : Prop where
  here : s'.here = s.here
  directory : ∀ place, s.tree.get? place = some .directory →
    s'.tree.get? place = some .directory
  link : ∀ place target, s.tree.get? place = some (.link target) →
    s'.tree.get? place = some (.link target)

theorem keepsWays_of_keepsKinds (hkinds : s.tree.KeepsKinds s'.tree)
    (hhere : s'.here = s.here) : KeepsWays s s' :=
  ⟨hhere, hkinds.directory, hkinds.link⟩

theorem keepsWays_of_keeps (hkeeps : s.tree.Keeps s'.tree) (hhere : s'.here = s.here) :
    KeepsWays s s' :=
  keepsWays_of_keepsKinds hkeeps.keepsKinds hhere

/-- A path leads to a directory still if the directories are there, and the links to
them. -/
theorem IsDirectoryAt.of_directories_links (h : s.IsDirectoryAt path place)
    (hhere : s'.here = s.here)
    (hdirectory : ∀ place, s.tree.get? place = some .directory →
      s'.tree.get? place = some .directory)
    (hlinks : ∀ place name target, s.tree.get? (place ++ [name]) = some (.link target) →
      s.tree.LinksToDirectory place name →
        s'.tree.get? (place ++ [name]) = some (.link target)) :
    s'.IsDirectoryAt path place := by
  obtain ⟨hclean, links, hleads⟩ := locate_eq_ok_iff.1 h.locate
  have horigin : s'.origin path = s.origin path := by
    rw [Session.origin, hhere]
    rfl
  refine ⟨locate_eq_ok_iff.2 ⟨hclean, links, horigin ▸ ?_⟩, hdirectory _ h.found⟩
  exact hleads.of_directories_links hdirectory hlinks h.found

/-- Where a path led to a directory, it still does. -/
theorem IsDirectoryAt.of_keepsWays (h : s.IsDirectoryAt path place)
    (hways : KeepsWays s s') : s'.IsDirectoryAt path place :=
  h.of_directories_links hways.here hways.directory
    fun _ _ target hlink _ => hways.link _ target hlink

/-- The way to an entry does not lead through the entry, if that leads to no
directory. -/
theorem IsDirectoryAt.of_replaced {target : Text} {entry : Entry}
    (h : s.IsDirectoryAt path place)
    (hlink : s.tree.get? (place ++ [name]) = some (.link target))
    (hlocate : s.locate .target (path.child name) = .ok place')
    (hplace' : s.tree.get? place' ≠ some .directory) (hhere : s'.here = s.here)
    (hget : ∀ other, s'.tree.get? other =
      if other = place ++ [name] then some entry else s.tree.get? other) :
    s'.IsDirectoryAt path place := by
  refine h.of_directories_links hhere (fun other hother => ?_)
    fun other last target' hother hway => ?_
  · rw [hget, if_neg, hother]
    rintro rfl
    exact nomatch hother.symm.trans hlink
  · rw [hget, if_neg, hother]
    intro hsame
    obtain ⟨rfl, hlast⟩ := List.append_inj' hsame rfl
    obtain rfl := List.singleton_inj.1 hlast
    obtain ⟨-, _, hleads⟩ := locate_eq_ok_iff.1 hlocate
    obtain ⟨links, middle, hmiddle, hparent, hentry⟩ :=
      hleads.exists_of_append (List.cons_ne_nil _ _)
    obtain ⟨hclean, _, hdirectory⟩ := locate_eq_ok_iff.1 h.locate
    obtain rfl := hparent.unique hdirectory
    obtain ⟨_, _, found, hfirst, hfound⟩ := hway
    obtain rfl := hfirst.unique hentry
    exact hplace' hfound

/-- What leads to anything but a link leads there with links followed. -/
theorem locate_target_of_locate (h : s.locate goal path = .ok place)
    (hend : goal ≠ .entry ∨ ∀ target, s.tree.get? place ≠ some (.link target)) :
    s.locate .target path = .ok place := by
  obtain ⟨hclean, links, hleads⟩ := locate_eq_ok_iff.1 h
  exact locate_eq_ok_iff.2 ⟨hclean, links, hleads.to_target hend⟩

theorem isDirectoryAt_of_locate (h : s.locate goal path = .ok place)
    (hplace : s.tree.get? place = some .directory) : s.IsDirectoryAt path place :=
  ⟨locate_target_of_locate h (.inr fun target => by simp [hplace]), hplace⟩

/-- A path to something ends in an entry, and in a directory only if it leads
there. -/
theorem exists_locate_entry (h : s.locate .target path = .ok place)
    (hplace : s.tree.get? place ≠ none) :
    ∃ place' entry, s.locate .entry path = .ok place' ∧
      s.tree.get? place' = some entry ∧ (entry = .directory → place' = place) := by
  obtain ⟨hclean, _, hleads⟩ := locate_eq_ok_iff.1 h
  obtain ⟨links, place', hentry, hsome⟩ := hleads.exists_entry hplace
  obtain ⟨entry, hfound⟩ := Option.ne_none_iff_exists'.1 hsome
  have hlocate : s.locate .entry path = .ok place' :=
    locate_eq_ok_iff.2 ⟨hclean, links, hentry⟩
  refine ⟨place', entry, hlocate, hfound, ?_⟩
  rintro rfl
  exact Except.ok.inj ((isDirectoryAt_of_locate hlocate hfound).locate.symm.trans h)

/-- A path to a file ends in an entry that is no directory. -/
theorem exists_locate_entry_of_file {bytes : ByteArray} {permissions : Nat}
    (h : s.locate .target path = .ok place)
    (hfound : s.tree.get? place = some (.file bytes permissions)) :
    ∃ place' entry, s.locate .entry path = .ok place' ∧
      s.tree.get? place' = some entry ∧ entry ≠ .directory := by
  obtain ⟨place', entry, hplace', hentry, hdirectory⟩ :=
    exists_locate_entry h (by simp [hfound])
  refine ⟨place', entry, hplace', hentry, ?_⟩
  rintro rfl
  rw [hdirectory rfl, hfound] at hentry
  cases hentry

/-- What leads to a file is moved to where a file is found. -/
theorem exists_run_move {source target : Path} {bytes bytes' : ByteArray}
    {permissions permissions' : Nat} (hsource : s.locate .target source = .ok place)
    (hfound : s.tree.get? place = some (.file bytes permissions))
    (htarget : s.locate .target target = .ok place')
    (hfound' : s.tree.get? place' = some (.file bytes' permissions')) :
    ∃ origin goal entry, s.locate .entry source = .ok origin ∧
      s.tree.get? origin = some entry ∧ s.locate .entry target = .ok goal ∧
      s.run (FileAccess.move source target) =
        (.ok (), { s with tree := (s.tree.erase origin).put goal entry }) := by
  obtain ⟨origin, entry, horigin, hentry, hmovable⟩ :=
    exists_locate_entry_of_file hsource hfound
  obtain ⟨goal, present, hgoal, hpresent, hkind⟩ :=
    exists_locate_entry_of_file htarget hfound'
  refine ⟨origin, goal, entry, horigin, hentry, hgoal, ?_⟩
  rw [run_move, horigin, hgoal]
  have hfree : s.tree.get? goal ≠ some .directory := by simpa [hpresent] using hkind
  cases entry with
  | directory => contradiction
  | file bytes permissions => simp only [hentry, hfree, if_false]
  | link target => simp only [hentry, hfree, if_false]

/-- A file that is written does not change where the paths to files lead. -/
theorem locate_target_of_written (hwritable : s.tree.Writable place')
    (h : s.locate .target path = .ok place)
    (hfound : place = place' ∨ s.tree.get? place ≠ none) (bytes : ByteArray)
    (permissions : Nat) :
    ({ s with tree := s.tree.put place' (.file bytes permissions) } : Session).locate
      .target path = .ok place := by
  refine locate_of_keepsKinds (hwritable.keepsKinds_put bytes permissions) rfl h ?_
  intro hnone
  obtain rfl := hfound.resolve_right fun hsome => hsome hnone
  refine .inr fun target => ?_
  rw [FileTree.get?_put _ hwritable.ne_nil, if_pos rfl]
  simp

end Session

end ModuleScaffold
