import ModuleScaffold.Files.Resolution
import Mathlib.Data.List.Induction
import Mathlib.Tactic.Common

/-!
# Where a path leads

`Leads` states how names are followed, one rule for each thing that a name can
be: a name that stays, the way up, a name that leads to nothing, a link that is
followed or not, and an entry.  Following names succeeds exactly where `Leads`
has a derivation, so the facts below are inductions over derivations and not over
the search.

Names that lead to a directory can be continued, and a path with several names
leads through the directory of its last one.  A tree that keeps the directories
and links of another one, and files where that has files, leads wherever that one
did.
-/

namespace ModuleScaffold

/-- A name that leads to an entry of its own. -/
def LeadsDown (name : Text) : Prop :=
  name ≠ [] ∧ name ≠ "." ∧ name ≠ ".."

namespace FileTree

/-- What is found in `tree` is found in `tree'` at the same place. -/
def Keeps (tree tree' : FileTree) : Prop :=
  ∀ place entry, tree.get? place = some entry → tree'.get? place = some entry

/-- What is found in `tree` is found in `tree'` at the same place, the bytes and the
permission bits of files aside. -/
structure KeepsKinds (tree tree' : FileTree) : Prop where
  directory : ∀ place, tree.get? place = some .directory →
    tree'.get? place = some .directory
  link : ∀ place target, tree.get? place = some (.link target) →
    tree'.get? place = some (.link target)
  file : ∀ place bytes permissions, tree.get? place = some (.file bytes permissions) →
    ∃ bytes' permissions', tree'.get? place = some (.file bytes' permissions')

theorem Keeps.keepsKinds {tree tree' : FileTree} (h : tree.Keeps tree') :
    tree.KeepsKinds tree' where
  directory := fun place => h place _
  link := fun place _ => h place _
  file := fun place bytes permissions hfile => ⟨bytes, permissions, h place _ hfile⟩

/-- Every entry lies in a directory. -/
def IsRooted (tree : FileTree) : Prop :=
  ∀ place name, tree.get? (place ++ [name]) ≠ none →
    tree.get? place = some .directory

/-- Where the text of a link is followed from. -/
def linkOrigin (place : Location) (target : Text) : Location :=
  if target.head? = some '/' then [] else place

/-- From `place` the names lead to `place'`, and of `links` links that may be
followed `links'` are left. -/
inductive Leads (tree : FileTree) (goal : Goal) :
    Nat → Location → List Text → Nat → Location → Prop
  | here {links : Nat} {place : Location} :
      Leads tree goal links place [] links place
  | stay {links links' : Nat} {place place' : Location} {name : Text}
      {rest : List Text}
      (hplace : tree.get? place = some .directory)
      (hname : name = [] ∨ name = ".")
      (hrest : Leads tree goal links place rest links' place') :
      Leads tree goal links place (name :: rest) links' place'
  | up {links links' : Nat} {place place' : Location} {name : Text}
      {rest : List Text}
      (hplace : tree.get? place = some .directory)
      (hname : name = "..")
      (hrest : Leads tree goal links place.dropLast rest links' place') :
      Leads tree goal links place (name :: rest) links' place'
  | nothing {links : Nat} {place : Location} {name : Text}
      (hplace : tree.get? place = some .directory)
      (hname : LeadsDown name) (hshort : isTooLong name = false)
      (hfound : tree.get? (place ++ [name]) = none) :
      Leads tree goal links place [name] links (place ++ [name])
  | link {links : Nat} {place : Location} {name target : Text}
      (hplace : tree.get? place = some .directory)
      (hname : LeadsDown name) (hshort : isTooLong name = false)
      (hfound : tree.get? (place ++ [name]) = some (.link target))
      (hgoal : goal = .entry) :
      Leads tree goal links place [name] links (place ++ [name])
  | through {links links' : Nat} {place place' : Location} {name target : Text}
      {rest : List Text}
      (hplace : tree.get? place = some .directory)
      (hname : LeadsDown name) (hshort : isTooLong name = false)
      (hslash : goal = .file → endsInSlash rest = false)
      (hfound : tree.get? (place ++ [name]) = some (.link target))
      (hgoal : rest = [] → goal ≠ .entry)
      (hrest : Leads tree goal links (linkOrigin place target)
        (target.splitOn '/' ++ rest) links' place') :
      Leads tree goal (links + 1) place (name :: rest) links' place'
  | down {links links' : Nat} {place place' : Location} {name : Text}
      {entry : Entry} {rest : List Text}
      (hplace : tree.get? place = some .directory)
      (hname : LeadsDown name) (hshort : isTooLong name = false)
      (hslash : goal = .file → endsInSlash rest = false)
      (hfound : tree.get? (place ++ [name]) = some entry)
      (hentry : ∀ target, entry ≠ .link target)
      (hrest : Leads tree goal links (place ++ [name]) rest links' place') :
      Leads tree goal links place (name :: rest) links' place'

variable {tree tree' : FileTree} {goal : Goal} {links links' : Nat}
  {place place' : Location} {name : Text} {names more rest : List Text}

/-- How the names of a link and those behind it are followed. -/
def followLink (tree : FileTree) (goal : Goal) :
    Nat → Location → List Text → Except Cause Location
  | 0 => fun _ _ => .error .tooManyLinks
  | links + 1 => follow tree goal links

theorem follow_eq (tree : FileTree) (goal : Goal) (links : Nat) :
    follow tree goal links = followNames tree goal (followLink tree goal links) := by
  cases links <;> rfl

@[simp] theorem follow_nil (tree : FileTree) (goal : Goal) (links : Nat)
    (place : Location) : follow tree goal links place [] = .ok place := by
  rw [follow_eq, followNames]

theorem follow_cons (tree : FileTree) (goal : Goal) (links : Nat)
    (place : Location) (name : Text) (rest : List Text) :
    follow tree goal links place (name :: rest) =
      if tree.get? place ≠ some .directory then
        .error .notDirectory
      else if name = [] ∨ name = "." then
        follow tree goal links place rest
      else if name = ".." then
        follow tree goal links place.dropLast rest
      else if goal = .file ∧ endsInSlash rest then
        .error .isDirectory
      else if isTooLong name then
        .error .nameTooLong
      else
        match tree.get? (place ++ [name]) with
        | none =>
          if rest = [] then .ok (place ++ [name]) else .error .notFound
        | some (.link target) =>
          if rest = [] ∧ goal = .entry then
            .ok (place ++ [name])
          else
            followLink tree goal links (linkOrigin place target)
              (target.splitOn '/' ++ rest)
        | some _ => follow tree goal links (place ++ [name]) rest := by
  rw [follow_eq]
  rfl

theorem follow_cons_of_leadsDown (hplace : tree.get? place = some .directory)
    (hname : LeadsDown name) (hshort : isTooLong name = false)
    (hslash : goal = .file → endsInSlash rest = false) :
    follow tree goal links place (name :: rest) =
      match tree.get? (place ++ [name]) with
      | none =>
        if rest = [] then .ok (place ++ [name]) else .error .notFound
      | some (.link target) =>
        if rest = [] ∧ goal = .entry then
          .ok (place ++ [name])
        else
          followLink tree goal links (linkOrigin place target)
            (target.splitOn '/' ++ rest)
      | some _ => follow tree goal links (place ++ [name]) rest := by
  have hstay : ¬ (name = [] ∨ name = ".") := not_or.2 ⟨hname.1, hname.2.1⟩
  have hfile : ¬ (goal = .file ∧ endsInSlash rest = true) := by
    rintro ⟨hgoal, hrest⟩
    rw [hslash hgoal] at hrest
    contradiction
  rw [follow_cons, if_neg (by simp [hplace]), if_neg hstay, if_neg hname.2.2,
    if_neg hfile, if_neg (by simp [hshort])]

theorem Leads.follow_eq_ok (h : Leads tree goal links place names links' place') :
    follow tree goal links place names = .ok place' := by
  induction h with
  | here => rw [follow_nil]
  | stay hplace hname _ ih =>
      rw [follow_cons, if_neg (by simp [hplace]), if_pos hname, ih]
  | up hplace hname _ ih =>
      subst hname
      rw [follow_cons, if_neg (by simp [hplace]), if_neg (by decide), if_pos rfl, ih]
  | nothing hplace hname hshort hfound =>
      rw [follow_cons_of_leadsDown hplace hname hshort fun _ => rfl]
      simp [hfound]
  | link hplace hname hshort hfound hgoal =>
      rw [follow_cons_of_leadsDown hplace hname hshort fun _ => rfl]
      simp [hfound, hgoal]
  | through hplace hname hshort hslash hfound hgoal _ ih =>
      rw [follow_cons_of_leadsDown hplace hname hshort hslash, hfound]
      exact (if_neg fun h => hgoal h.1 h.2).trans ih
  | @down _ _ _ _ _ entry _ hplace hname hshort hslash hfound hentry _ ih =>
      rw [follow_cons_of_leadsDown hplace hname hshort hslash, hfound]
      cases entry with
      | directory => exact ih
      | file bytes permissions => exact ih
      | link target => exact absurd rfl (hentry target)

theorem exists_leads_of_follow
    (h : follow tree goal links place names = .ok place') :
    ∃ links', Leads tree goal links place names links' place' := by
  induction links using Nat.strongRecOn generalizing place names with
  | ind links ihlinks =>
    induction names generalizing place with
    | nil =>
        rw [follow_nil] at h
        obtain rfl := Except.ok.inj h
        exact ⟨links, .here⟩
    | cons name rest ihrest =>
        rw [follow_cons] at h
        split at h
        · contradiction
        next hplace =>
        have hplace : tree.get? place = some .directory := by simpa using hplace
        split at h
        next hname =>
          obtain ⟨links', hrest⟩ := ihrest h
          exact ⟨links', .stay hplace hname hrest⟩
        next hstay =>
        split at h
        next hname =>
          obtain ⟨links', hrest⟩ := ihrest h
          exact ⟨links', .up hplace hname hrest⟩
        next hup =>
        have hname : LeadsDown name := by
          rw [not_or] at hstay
          exact ⟨hstay.1, hstay.2, hup⟩
        split at h
        · contradiction
        next hslash =>
        have hslash : goal = .file → endsInSlash rest = false := by
          intro hgoal
          simpa [hgoal] using hslash
        split at h
        · contradiction
        next hshort =>
        have hshort : isTooLong name = false := by simpa using hshort
        split at h
        next hfound =>
          split at h
          next hrest =>
            subst hrest
            obtain rfl := Except.ok.inj h
            exact ⟨links, .nothing hplace hname hshort hfound⟩
          next => contradiction
        next target hfound =>
          split at h
          next hlast =>
            obtain ⟨rfl, hgoal⟩ := hlast
            obtain rfl := Except.ok.inj h
            exact ⟨links, .link hplace hname hshort hfound hgoal⟩
          next hlast =>
            cases links with
            | zero => contradiction
            | succ links =>
                obtain ⟨links', hrest⟩ := ihlinks links (by omega) h
                exact ⟨links', .through hplace hname hshort hslash hfound
                  (fun hrest hgoal => hlast ⟨hrest, hgoal⟩) hrest⟩
        next entry hentry hfound =>
          obtain ⟨links', hrest⟩ := ihrest h
          exact ⟨links', .down hplace hname hshort hslash hfound
            (fun target htarget => hentry target (by rw [htarget])) hrest⟩

theorem follow_eq_ok_iff :
    follow tree goal links place names = .ok place' ↔
      ∃ links', Leads tree goal links place names links' place' :=
  ⟨exists_leads_of_follow, fun ⟨_, h⟩ => h.follow_eq_ok⟩

theorem endsInSlash_append_eq_false (names : List Text)
    (hmore : more.all List.isEmpty = false) :
    endsInSlash (names ++ more) = false := by
  simp [endsInSlash, List.all_append, hmore]

/-- Names that lead to a directory can be continued from there. -/
theorem Leads.append {links'' : Nat} {place'' : Location}
    (h : Leads tree .target links place names links' place')
    (hplace' : tree.get? place' = some .directory)
    (hmore : more.all List.isEmpty = false)
    (hrest : Leads tree goal links' place' more links'' place'') :
    Leads tree goal links place (names ++ more) links'' place'' := by
  have hne : ∀ rest : List Text, rest ++ more ≠ [] := by
    intro rest hnil
    rw [(List.append_eq_nil_iff.1 hnil).2] at hmore
    contradiction
  induction h with
  | here => exact hrest
  | stay hplace hname _ ih => exact .stay hplace hname (ih hplace' hrest)
  | up hplace hname _ ih => exact .up hplace hname (ih hplace' hrest)
  | nothing _ _ _ hfound => exact absurd (hfound.symm.trans hplace') (by simp)
  | link _ _ _ _ hgoal => contradiction
  | through hplace hname hshort _ hfound _ _ ih =>
      refine .through hplace hname hshort
        (fun _ => endsInSlash_append_eq_false _ hmore) hfound
        (fun hnil => absurd hnil (hne _)) ?_
      simpa using ih hplace' hrest
  | down hplace hname hshort _ hfound hentry _ ih =>
      exact .down hplace hname hshort
        (fun _ => endsInSlash_append_eq_false _ hmore) hfound hentry
        (ih hplace' hrest)

/-- Where names lead on, those ahead of them led to a directory. -/
theorem Leads.exists_of_append {links'' : Nat} {place'' : Location}
    (h : Leads tree goal links place (names ++ more) links'' place'')
    (hmore : more ≠ []) :
    ∃ links' place', tree.get? place' = some .directory ∧
      Leads tree .target links place names links' place' ∧
      Leads tree goal links' place' more links'' place'' := by
  obtain ⟨first, others, rfl⟩ := List.exists_cons_of_ne_nil hmore
  -- without names ahead the path is at its directory already
  have hnil : ∀ {links : Nat} {place : Location},
      Leads tree goal links place (first :: others) links'' place'' →
        ∃ links' place', tree.get? place' = some .directory ∧
          Leads tree .target links place [] links' place' ∧
          Leads tree goal links' place' (first :: others) links'' place'' := by
    intro links place h
    have hplace : tree.get? place = some .directory := by cases h <;> assumption
    exact ⟨links, place, hplace, .here, h⟩
  have hne : ∀ {rest : List Text}, rest ++ first :: others ≠ [] := by simp
  generalize hall : names ++ first :: others = all at h
  induction h generalizing names with
  | here => simp at hall
  | stay hplace hname hrest ih =>
      rcases names with _ | ⟨name, names⟩
      · obtain ⟨rfl, rfl⟩ := List.cons.inj hall
        exact hnil (.stay hplace hname hrest)
      · obtain ⟨rfl, rfl⟩ := List.cons.inj hall
        obtain ⟨links', place', hplace', hnames, hmore'⟩ := ih hnil rfl
        exact ⟨links', place', hplace', .stay hplace hname hnames, hmore'⟩
  | up hplace hname hrest ih =>
      rcases names with _ | ⟨name, names⟩
      · obtain ⟨rfl, rfl⟩ := List.cons.inj hall
        exact hnil (.up hplace hname hrest)
      · obtain ⟨rfl, rfl⟩ := List.cons.inj hall
        obtain ⟨links', place', hplace', hnames, hmore'⟩ := ih hnil rfl
        exact ⟨links', place', hplace', .up hplace hname hnames, hmore'⟩
  | nothing hplace hname hshort hfound =>
      rcases names with _ | ⟨name, names⟩
      · obtain ⟨rfl, rfl⟩ := List.cons.inj hall
        exact hnil (.nothing hplace hname hshort hfound)
      · exact absurd (List.cons.inj hall).2 hne
  | link hplace hname hshort hfound hgoal =>
      rcases names with _ | ⟨name, names⟩
      · obtain ⟨rfl, rfl⟩ := List.cons.inj hall
        exact hnil (.link hplace hname hshort hfound hgoal)
      · exact absurd (List.cons.inj hall).2 hne
  | through hplace hname hshort hslash hfound hgoal hrest ih =>
      rcases names with _ | ⟨name, names⟩
      · obtain ⟨rfl, rfl⟩ := List.cons.inj hall
        exact hnil (.through hplace hname hshort hslash hfound hgoal hrest)
      · obtain ⟨rfl, rfl⟩ := List.cons.inj hall
        obtain ⟨links', place', hplace', hnames, hmore'⟩ :=
          ih hnil (List.append_assoc _ _ _)
        exact ⟨links', place', hplace',
          .through hplace hname hshort nofun hfound (fun _ => nofun) hnames, hmore'⟩
  | down hplace hname hshort hslash hfound hentry hrest ih =>
      rcases names with _ | ⟨name, names⟩
      · obtain ⟨rfl, rfl⟩ := List.cons.inj hall
        exact hnil (.down hplace hname hshort hslash hfound hentry hrest)
      · obtain ⟨rfl, rfl⟩ := List.cons.inj hall
        obtain ⟨links', place', hplace', hnames, hmore'⟩ := ih hnil rfl
        exact ⟨links', place', hplace',
          .down hplace hname hshort nofun hfound hentry hnames, hmore'⟩

/-- What leads to anything but a link leads there with links followed. -/
theorem Leads.to_target (h : Leads tree goal links place names links' place')
    (hend : goal ≠ .entry ∨ ∀ target, tree.get? place' ≠ some (.link target)) :
    Leads tree .target links place names links' place' := by
  induction h with
  | here => exact .here
  | stay hplace hname _ ih => exact .stay hplace hname (ih hend)
  | up hplace hname _ ih => exact .up hplace hname (ih hend)
  | nothing hplace hname hshort hfound =>
      exact .nothing hplace hname hshort hfound
  | link _ _ _ hfound hgoal =>
      exact absurd hfound (hend.resolve_left (fun h => h hgoal) _)
  | through hplace hname hshort _ hfound _ _ ih =>
      exact .through hplace hname hshort nofun hfound (fun _ => nofun) (ih hend)
  | down hplace hname hshort _ hfound hentry _ ih =>
      exact .down hplace hname hshort nofun hfound hentry (ih hend)

/-- The last name leads into its directory, unless it is a link to be
followed. -/
theorem leads_last (links : Nat) (hplace : tree.get? place = some .directory)
    (hname : LeadsDown name) (hshort : isTooLong name = false)
    (hlink : goal = .entry ∨
      ∀ target, tree.get? (place ++ [name]) ≠ some (.link target)) :
    Leads tree goal links place [name] links (place ++ [name]) := by
  cases hfound : tree.get? (place ++ [name]) with
  | none => exact .nothing hplace hname hshort hfound
  | some entry =>
      by_cases hentry : ∃ target, entry = .link target
      · obtain ⟨target, rfl⟩ := hentry
        have hgoal : goal = .entry := hlink.resolve_right fun h => h target hfound
        exact .link hplace hname hshort hfound hgoal
      · exact .down hplace hname hshort (fun _ => rfl) hfound
          (fun target htarget => hentry ⟨target, htarget⟩) .here

theorem Leads.last_cases (h : Leads tree goal links place [name] links' place')
    (hname : LeadsDown name) :
    tree.get? place = some .directory ∧ isTooLong name = false ∧
      (place' = place ++ [name] ∨
        goal ≠ .entry ∧ ∃ target, tree.get? (place ++ [name]) = some (.link target)) := by
  cases h with
  | stay _ hstay => exact absurd hstay (not_or.2 ⟨hname.1, hname.2.1⟩)
  | up _ hup => exact absurd hup hname.2.2
  | nothing hplace _ hshort => exact ⟨hplace, hshort, .inl rfl⟩
  | link hplace _ hshort => exact ⟨hplace, hshort, .inl rfl⟩
  | through hplace _ hshort _ hfound hgoal =>
      exact ⟨hplace, hshort, .inr ⟨hgoal rfl, _, hfound⟩⟩
  | down hplace _ hshort _ _ _ hrest =>
      cases hrest
      exact ⟨hplace, hshort, .inl rfl⟩

/-- Without a link followed, the last name leads nowhere but to its directory, the
one above, or an entry. -/
theorem Leads.last_entry_cases (h : Leads tree .entry links place [name] links' place') :
    place' = place ∨ place' = place.dropLast ∨ place' = place ++ [name] := by
  cases h with
  | stay _ _ hrest =>
      cases hrest
      exact .inl rfl
  | up _ _ hrest =>
      cases hrest
      exact .inr (.inl rfl)
  | nothing => exact .inr (.inr rfl)
  | link => exact .inr (.inr rfl)
  | through _ _ _ _ _ hgoal => exact absurd rfl (hgoal rfl)
  | down _ _ _ _ _ _ hrest =>
      cases hrest
      exact .inr (.inr rfl)

/-- Names that lead to something end in an entry. -/
theorem Leads.exists_entry (h : Leads tree .target links place names links' place')
    (hplace' : tree.get? place' ≠ none) :
    ∃ links'' place'', Leads tree .entry links place names links'' place'' ∧
      tree.get? place'' ≠ none := by
  induction h with
  | here => exact ⟨_, _, .here, hplace'⟩
  | stay hplace hname _ ih =>
      obtain ⟨links'', place'', hrest, hfound⟩ := ih hplace'
      exact ⟨links'', place'', .stay hplace hname hrest, hfound⟩
  | up hplace hname _ ih =>
      obtain ⟨links'', place'', hrest, hfound⟩ := ih hplace'
      exact ⟨links'', place'', .up hplace hname hrest, hfound⟩
  | nothing _ _ _ hfound => exact absurd hfound hplace'
  | link _ _ _ _ hgoal => contradiction
  | @through _ _ _ _ _ _ rest hplace hname hshort _ hlink _ _ ih =>
      by_cases hlast : rest = []
      · subst hlast
        exact ⟨_, _, .link hplace hname hshort hlink rfl, by simp [hlink]⟩
      · obtain ⟨links'', place'', hrest, hfound⟩ := ih hplace'
        exact ⟨links'', place'', .through hplace hname hshort nofun hlink
          (fun hnil => absurd hnil hlast) hrest, hfound⟩
  | down hplace hname hshort _ hentry hlink _ ih =>
      obtain ⟨links'', place'', hrest, hfound⟩ := ih hplace'
      exact ⟨links'', place'', .down hplace hname hshort nofun hentry hlink hrest,
        hfound⟩

/-- Names lead where they led if every entry is of its kind still, and nothing is
followed where there was nothing. -/
theorem Leads.of_keepsKinds (hkinds : tree.KeepsKinds tree')
    (h : Leads tree goal links place names links' place')
    (hend : tree.get? place' = none →
      goal = .entry ∨ ∀ target, tree'.get? place' ≠ some (.link target)) :
    Leads tree' goal links place names links' place' := by
  induction h with
  | here => exact .here
  | stay hplace hname _ ih => exact .stay (hkinds.directory _ hplace) hname (ih hend)
  | up hplace hname _ ih => exact .up (hkinds.directory _ hplace) hname (ih hend)
  | nothing hplace hname hshort hnone =>
      exact leads_last _ (hkinds.directory _ hplace) hname hshort (hend hnone)
  | link hplace hname hshort hlink hgoal =>
      exact .link (hkinds.directory _ hplace) hname hshort (hkinds.link _ _ hlink) hgoal
  | through hplace hname hshort hslash hlink hgoal _ ih =>
      exact .through (hkinds.directory _ hplace) hname hshort hslash
        (hkinds.link _ _ hlink) hgoal (ih hend)
  | @down _ _ _ _ _ entry _ hplace hname hshort hslash hfound hentry _ ih =>
      have hplace := hkinds.directory _ hplace
      cases entry with
      | directory =>
          exact .down hplace hname hshort hslash (hkinds.directory _ hfound) nofun
            (ih hend)
      | file bytes permissions =>
          obtain ⟨_, _, hfile⟩ := hkinds.file _ _ _ hfound
          exact .down hplace hname hshort hslash hfile nofun (ih hend)
      | link target => exact absurd rfl (hentry target)

/-- More links may be followed than are needed. -/
theorem Leads.more_links (h : Leads tree goal links place names links' place')
    (k : Nat) : Leads tree goal (links + k) place names (links' + k) place' := by
  induction h with
  | here => exact .here
  | stay hplace hname _ ih => exact .stay hplace hname ih
  | up hplace hname _ ih => exact .up hplace hname ih
  | nothing hplace hname hshort hfound => exact .nothing hplace hname hshort hfound
  | link hplace hname hshort hfound hgoal =>
      exact .link hplace hname hshort hfound hgoal
  | through hplace hname hshort hslash hfound hgoal _ ih =>
      rw [Nat.add_right_comm]
      exact .through hplace hname hshort hslash hfound hgoal ih
  | down hplace hname hshort hslash hfound hentry _ ih =>
      exact .down hplace hname hshort hslash hfound hentry ih

/-- Names lead to one place, however many links may be followed. -/
theorem Leads.unique {links₂ links₂' : Nat} {place₂ : Location}
    (h : Leads tree goal links place names links' place')
    (h₂ : Leads tree goal links₂ place names links₂' place₂) : place' = place₂ := by
  have hfirst := (h.more_links links₂).follow_eq_ok
  have hsecond := (h₂.more_links links).follow_eq_ok
  rw [Nat.add_comm] at hsecond
  exact Except.ok.inj (hfirst.symm.trans hsecond)

/-- A link that leads to a directory. -/
def LinksToDirectory (tree : FileTree) (place : Location) (name : Text) : Prop :=
  ∃ links links' place', Leads tree .target links place [name] links' place' ∧
    tree.get? place' = some .directory

/-- Only directories and the links to them decide which directory names lead to. -/
theorem Leads.of_directories_links
    (hdirectory : ∀ place, tree.get? place = some .directory →
      tree'.get? place = some .directory)
    (hlinks : ∀ place name target, tree.get? (place ++ [name]) = some (.link target) →
      LinksToDirectory tree place name →
        tree'.get? (place ++ [name]) = some (.link target))
    (h : Leads tree .target links place names links' place')
    (hplace' : tree.get? place' = some .directory) :
    Leads tree' .target links place names links' place' := by
  induction h with
  | here => exact .here
  | stay hplace hname _ ih => exact .stay (hdirectory _ hplace) hname (ih hplace')
  | up hplace hname _ ih => exact .up (hdirectory _ hplace) hname (ih hplace')
  | nothing _ _ _ hfound => exact absurd (hfound.symm.trans hplace') (by simp)
  | link _ _ _ _ hgoal => contradiction
  | @through _ _ place _ name target rest hplace hname hshort hslash hfound hgoal hrest ih =>
      have hway : Leads tree .target _ place ([name] ++ rest) _ _ :=
        .through hplace hname hshort hslash hfound hgoal hrest
      have hlink : LinksToDirectory tree place name := by
        by_cases hlast : rest = []
        · subst hlast
          exact ⟨_, _, _, hway, hplace'⟩
        · obtain ⟨_, middle, hmiddle, hfirst, -⟩ := hway.exists_of_append hlast
          exact ⟨_, _, middle, hfirst, hmiddle⟩
      exact .through (hdirectory _ hplace) hname hshort hslash (hlinks _ _ _ hfound hlink)
        hgoal (ih hplace')
  | @down _ _ place _ name entry _ hplace hname hshort hslash hfound hentry hrest ih =>
      have hnext : tree.get? (place ++ [name]) = some .directory := by
        cases hrest <;> assumption
      obtain rfl := Option.some.inj (hfound.symm.trans hnext)
      exact .down (hdirectory _ hplace) hname hshort hslash (hdirectory _ hfound)
        hentry (ih hplace')

theorem IsRooted.dropLast (hrooted : tree.IsRooted) (hplace : tree.get? place ≠ none) :
    tree.get? place.dropLast = some .directory := by
  cases place using List.reverseRecOn with
  | nil => rfl
  | append_singleton parent name =>
      rw [List.dropLast_concat]
      exact hrooted parent name hplace

theorem IsRooted.append_eq_none (hrooted : tree.IsRooted)
    (hplace : tree.get? place = none) (names : List Text) :
    tree.get? (place ++ names) = none := by
  induction names using List.reverseRecOn with
  | nil => rwa [List.append_nil]
  | append_singleton names name ih =>
      by_contra hfound
      rw [← List.append_assoc] at hfound
      have hdirectory := hrooted _ _ hfound
      rw [ih] at hdirectory
      contradiction

/-- The last name of a path to anything but a directory is a name of its own. -/
theorem Leads.leadsDown_last (hrooted : tree.IsRooted)
    (h : Leads tree goal links place (names ++ [name]) links' place')
    (hplace' : tree.get? place' ≠ some .directory) : LeadsDown name := by
  obtain ⟨_, parent, hparent, -, hlast⟩ := h.exists_of_append (by simp)
  cases hlast with
  | stay _ _ hrest =>
      cases hrest
      contradiction
  | up _ _ hrest =>
      cases hrest
      exact absurd (hrooted.dropLast (by simp [hparent])) hplace'
  | nothing _ hname => exact hname
  | link _ hname => exact hname
  | through _ hname => exact hname
  | down _ hname => exact hname

/-- Behind a missing entry there is nothing to be found. -/
theorem Leads.follow_append_of_none (hrooted : tree.IsRooted)
    (h : Leads tree .entry links place names links' place')
    (hplace : tree.get? place ≠ none) (hplace' : tree.get? place' = none)
    (hmore : more ≠ []) (hgoal : goal ≠ .file) :
    follow tree goal links place (names ++ more) = .error .notFound := by
  induction h with
  | here => contradiction
  | stay hdirectory hname _ ih =>
      rw [List.cons_append, follow_cons, if_neg (by simp [hdirectory]), if_pos hname,
        ih hplace hplace']
  | up hdirectory hname _ ih =>
      subst hname
      rw [List.cons_append, follow_cons, if_neg (by simp [hdirectory]),
        if_neg (by decide), if_pos rfl, ih ?_ hplace']
      simp [hrooted.dropLast hplace]
  | nothing hdirectory hname hshort hfound =>
      rw [List.cons_append, follow_cons_of_leadsDown hdirectory hname hshort
        fun h => absurd h hgoal, hfound]
      simp [hmore]
  | link _ _ _ hfound => exact absurd (hfound.symm.trans hplace') (by simp)
  | @through _ _ place _ _ target _ hdirectory hname hshort _ hfound _ _ ih =>
      rw [List.cons_append, follow_cons_of_leadsDown hdirectory hname hshort
        fun h => absurd h hgoal, hfound]
      have horigin : tree.get? (linkOrigin place target) ≠ none := by
        unfold linkOrigin
        split
        · simp
        · exact hplace
      simp only [List.append_eq_nil_iff, hmore, and_false, false_and, if_false]
      rw [← List.append_assoc]
      exact ih horigin hplace'
  | @down _ _ _ _ _ entry _ hdirectory hname hshort _ hfound hentry _ ih =>
      rw [List.cons_append, follow_cons_of_leadsDown hdirectory hname hshort
        fun h => absurd h hgoal, hfound]
      have hrest := ih (by simp [hfound]) hplace'
      cases entry with
      | directory => exact hrest
      | file bytes permissions => exact hrest
      | link target => exact absurd rfl (hentry target)

/-- A path that is refused is refused with more names behind it, too. -/
theorem follow_append_of_error {cause : Cause} (hmore : more ≠ [])
    (hgoal : goal ≠ .file)
    (h : follow tree .entry links place names = .error cause) :
    follow tree goal links place (names ++ more) = .error cause := by
  induction links using Nat.strongRecOn generalizing place names with
  | ind links ihlinks =>
    induction names generalizing place with
    | nil => simp at h
    | cons name rest ihrest =>
        rw [follow_cons] at h
        rw [List.cons_append, follow_cons]
        split at h
        next hplace => rwa [if_pos hplace]
        next hplace =>
        rw [if_neg hplace]
        split at h
        next hname => rw [if_pos hname, ihrest h]
        next hname =>
        rw [if_neg hname]
        split at h
        next hup => rw [if_pos hup, ihrest h]
        next hup =>
        rw [if_neg hup, if_neg fun hfile => hgoal hfile.1]
        rw [if_neg fun hfile => nomatch hfile.1] at h
        split at h
        next hlong => rwa [if_pos hlong]
        next hshort =>
        rw [if_neg hshort]
        split at h
        next hfound =>
          split at h
          · contradiction
          · simpa [hfound, hmore] using h
        next target hfound =>
          split at h
          next hlast => contradiction
          next hlast =>
            simp only [List.append_eq_nil_iff, hmore, and_false, false_and, if_false]
            rw [← List.append_assoc]
            cases links with
            | zero => exact h
            | succ links => exact ihlinks links (by omega) h
        next entry hentry hfound => exact ihrest h

end FileTree

end ModuleScaffold
