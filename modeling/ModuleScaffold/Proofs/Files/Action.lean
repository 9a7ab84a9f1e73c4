import ModuleScaffold.CommandLine.Generate
import ModuleScaffold.Files.Session
import ModuleScaffold.Proofs.Files.Following

/-!
# What an action does

`Session.run` gives the result of an action and the session behind it.  It goes
through sequences and handlers, so an action is read off its steps, and every
operation on files has one equation: it looks a path up, fails without a change
or changes the tree at one place.
-/

namespace ModuleScaffold

/-- Whether no name of a path holds the null character. -/
def Path.IsClean (path : Path) : Prop :=
  ∀ name ∈ path.names, '\x00' ∉ name

/-- The permission bits of an entry. -/
def Entry.permissions : Entry → Nat
  | .file _ permissions => permissions
  | _ => directoryPermissions

namespace Session

variable {α β : Type}

/-- The result of an action and the session behind it. -/
def run (s : Session) (action : SessionM α) : Except Failure α × Session :=
  action s

@[simp] theorem run_pure (s : Session) (a : α) : s.run (pure a) = (.ok a, s) := rfl

@[simp] theorem run_throw (s : Session) (f : Failure) :
    s.run (throw f : SessionM α) = (.error f, s) := rfl

theorem run_bind (s : Session) (x : SessionM α) (k : α → SessionM β) :
    s.run (x >>= k) =
      match s.run x with
      | (.ok a, s') => s'.run (k a)
      | (.error f, s') => (.error f, s') := by
  unfold run
  change (x >>= k).run s = _
  simp only [bind, ExceptT.bind, ExceptT.run, ExceptT.mk, StateT.bind]
  rcases x s with ⟨_ | _, _⟩ <;> rfl

theorem run_tryCatch (s : Session) (x : SessionM α) (handler : Failure → SessionM α) :
    s.run (tryCatch x handler) =
      match s.run x with
      | (.ok a, s') => (.ok a, s')
      | (.error f, s') => s'.run (handler f) := by
  unfold run
  simp only [tryCatch, tryCatchThe, MonadExceptOf.tryCatch, ExceptT.tryCatch, ExceptT.mk,
    bind, StateT.bind]
  rcases x s with ⟨_ | _, _⟩ <;> rfl

theorem run_bind_of_ok {s s' : Session} {x : SessionM α} {a : α}
    (h : s.run x = (.ok a, s')) (k : α → SessionM β) :
    s.run (x >>= k) = s'.run (k a) := by
  rw [run_bind, h]

theorem run_bind_of_error {s s' : Session} {x : SessionM α} {f : Failure}
    (h : s.run x = (.error f, s')) (k : α → SessionM β) :
    s.run (x >>= k) = (.error f, s') := by
  rw [run_bind, h]

/-- A sequence that fails does so at its first step or behind it. -/
theorem run_bind_error_cases {s s' : Session} {x : SessionM α} {k : α → SessionM β}
    {f : Failure} (h : s.run (x >>= k) = (.error f, s')) :
    s.run x = (.error f, s') ∨
      ∃ a s₁, s.run x = (.ok a, s₁) ∧ s₁.run (k a) = (.error f, s') := by
  rw [run_bind] at h
  rcases hrun : s.run x with ⟨e | a, s₁⟩
  · rw [hrun] at h
    cases h
    exact .inl rfl
  · rw [hrun] at h
    exact .inr ⟨a, s₁, rfl, h⟩

/-- A list of actions that fails does so at one of them. -/
theorem mapM_failure {s : Session} {xs : List α} {g : α → SessionM β} {f : Failure}
    (h : (s.run (xs.mapM g)).1 = .error f) :
    ∃ x ∈ xs, ∃ s', (Session.run s' (g x)).1 = .error f := by
  induction xs generalizing s with
  | nil => exact nomatch h
  | cons x xs ih =>
      rw [List.mapM_cons] at h
      rcases run_bind_error_cases (Prod.ext h rfl) with hfirst | ⟨y, s₁, -, hrest⟩
      · exact ⟨x, List.mem_cons_self, s, congrArg Prod.fst hfirst⟩
      · rcases run_bind_error_cases hrest with hlater | ⟨ys, s₂, -, hdone⟩
        · obtain ⟨x', hmem, hx'⟩ := ih (congrArg Prod.fst hlater)
          exact ⟨x', List.mem_cons_of_mem _ hmem, hx'⟩
        · exact nomatch hdone

theorem run_map (s : Session) (g : α → β) (x : SessionM α) :
    s.run (g <$> x) = ((s.run x).1.map g, (s.run x).2) := by
  rw [map_eq_pure_bind, run_bind]
  rcases s.run x with ⟨_ | _, _⟩ <;> rfl

@[simp] theorem run_get (s : Session) : s.run get = (.ok s, s) := rfl

/-- Where a path leads in a session. -/
def locate (s : Session) (goal : Goal) (path : Path) : Except Failure Location :=
  if path.names.any fun name => '\x00' ∈ name then
    .error .nullCharacter
  else
    (s.tree.locate s.here goal path).mapError (.refused · path)

/-- What is found at the end of a path, a link not followed. -/
def found? (s : Session) (path : Path) : Option Entry :=
  match s.locate .entry path with
  | .ok place => s.tree.get? place
  | .error _ => none

theorem run_lookUp (s : Session) (goal : Goal) (path : Path) :
    s.run (lookUp goal path) =
      ((s.locate goal path).map fun place => (place, s.tree.get? place), s) := by
  unfold lookUp locate checkNull
  split
  · rfl
  · simp only [run_bind, run_pure, run_get]
    cases s.tree.locate s.here goal path <;> rfl

theorem run_find (s : Session) (path : Path) :
    s.run (find path) =
      (match s.locate .target path with
        | .ok place => .ok (s.tree.get? place)
        | .error (.refused .nameTooLong other) => .error (.refused .nameTooLong other)
        | .error _ => .ok none, s) := by
  unfold find
  rw [run_tryCatch, run_map, run_lookUp]
  cases s.locate .target path with
  | ok place => rfl
  | error f =>
      cases f with
      | refused cause other => cases cause <;> rfl
      | _ => rfl

theorem run_isThere (s : Session) (path : Path) :
    s.run (FileAccess.isThere path) =
      (match s.locate .target path with
        | .ok place => .ok (s.tree.get? place).isSome
        | .error (.refused .nameTooLong other) => .error (.refused .nameTooLong other)
        | .error _ => .ok false, s) := by
  change s.run (Option.isSome <$> find path) = _
  rw [run_map, run_find]
  cases s.locate .target path with
  | ok place => rfl
  | error f =>
      cases f with
      | refused cause other => cases cause <;> rfl
      | _ => rfl

theorem run_read (s : Session) (path : Path) :
    s.run (FileAccess.read path) =
      (match s.locate .target path with
        | .ok place =>
          match s.tree.get? place with
          | some (.file bytes _) => .ok bytes
          | some _ => .error (.refused .isDirectory path)
          | none => .error (.refused .notFound path)
        | .error f => .error f, s) := by
  change s.run (read path) = _
  simp only [read, findFile, run_bind, run_lookUp]
  cases s.locate .target path with
  | error f => rfl
  | ok place =>
      simp only [Except.map]
      rcases s.tree.get? place with _ | _ | _ | _ <;> rfl

theorem run_write (s : Session) (path : Path) (bytes : ByteArray) :
    s.run (FileAccess.write path bytes) =
      match s.locate .file path with
      | .ok place =>
        match s.tree.get? place with
        | some (.file _ permissions) =>
          (.ok (), { s with tree := s.tree.put place (.file bytes permissions) })
        | some _ => (.error (.refused .isDirectory path), s)
        | none =>
          (.ok (), { s with tree := s.tree.put place (.file bytes newFilePermissions) })
      | .error f => (.error f, s) := by
  change s.run (write path bytes) = _
  simp only [write, run_bind, run_lookUp]
  cases s.locate .file path with
  | error f => rfl
  | ok place =>
      simp only [Except.map, run_get]
      rcases s.tree.get? place with _ | _ | _ | _ <;> rfl

theorem run_makeDirectory (s : Session) (path : Path) :
    s.run (FileAccess.makeDirectory path) =
      match s.locate .entry path with
      | .ok place =>
        match s.tree.get? place with
        | some _ => (.error (.refused .alreadyThere path), s)
        | none => (.ok (), { s with tree := s.tree.put place .directory })
      | .error f => (.error f, s) := by
  change s.run (makeDirectory path) = _
  simp only [makeDirectory, run_bind, run_lookUp]
  cases s.locate .entry path with
  | error f => rfl
  | ok place =>
      simp only [Except.map]
      rcases s.tree.get? place with _ | _ <;> rfl

theorem run_remove (s : Session) (path : Path) :
    s.run (FileAccess.remove path) =
      match s.locate .entry path with
      | .ok place =>
        match s.tree.get? place with
        | none => (.error (.refused .notFound path), s)
        | some .directory => (.error (.refused .isDirectory path), s)
        | some _ => (.ok (), { s with tree := s.tree.erase place })
      | .error f => (.error f, s) := by
  change s.run (remove path) = _
  simp only [remove, run_bind, run_lookUp]
  cases s.locate .entry path with
  | error f => rfl
  | ok place =>
      simp only [Except.map]
      rcases s.tree.get? place with _ | _ | _ | _ <;> rfl

theorem run_move (s : Session) (source target : Path) :
    s.run (FileAccess.move source target) =
      match s.locate .entry source with
      | .error f => (.error f, s)
      | .ok sourcePlace =>
        match s.locate .entry target with
        | .error f => (.error f, s)
        | .ok targetPlace =>
          match s.tree.get? sourcePlace with
          | none => (.error (.refused .notFound source), s)
          | some .directory => (.error (.refused .isDirectory source), s)
          | some entry =>
            if s.tree.get? targetPlace = some .directory then
              (.error (.refused .isDirectory target), s)
            else
              (.ok (),
                { s with tree := (s.tree.erase sourcePlace).put targetPlace entry }) := by
  change s.run (move source target) = _
  simp only [move, run_bind, run_lookUp]
  cases s.locate .entry source with
  | error f => rfl
  | ok sourcePlace =>
      simp only [Except.map]
      cases s.locate .entry target with
      | error f => rfl
      | ok targetPlace =>
          rcases s.tree.get? sourcePlace with _ | _ | _ | _
          · rfl
          · rfl
          all_goals
            dsimp only
            split <;> rfl

theorem run_permissions (s : Session) (path : Path) :
    s.run (permissions path) =
      (match s.locate .target path with
        | .ok place =>
          match s.tree.get? place with
          | some entry => .ok entry.permissions
          | none => .error (.refused .notFound path)
        | .error f => .error f, s) := by
  simp only [permissions, run_bind, run_lookUp]
  cases s.locate .target path with
  | error f => rfl
  | ok place =>
      simp only [Except.map]
      rcases s.tree.get? place with _ | _ | _ | _ <;> rfl

theorem run_setPermissions (s : Session) (path : Path) (permissions : Nat) :
    s.run (setPermissions path permissions) =
      match s.locate .target path with
      | .ok place =>
        match s.tree.get? place with
        | some (.file bytes _) =>
          (.ok (), { s with tree := s.tree.put place (.file bytes permissions) })
        | some _ => (.error (.refused .isDirectory path), s)
        | none => (.error (.refused .notFound path), s)
      | .error f => (.error f, s) := by
  simp only [setPermissions, findFile, run_bind, run_lookUp]
  cases s.locate .target path with
  | error f => rfl
  | ok place =>
      simp only [Except.map]
      rcases s.tree.get? place with _ | _ | _ | _ <;> rfl

theorem copyPermissions_eq (source target : Path) :
    (FileAccess.copyPermissions source target : SessionM Unit) =
      permissions source >>= fun bits => setPermissions target bits := rfl

@[simp] theorem run_say (s : Session) (line : Line) :
    s.run (Reporting.say line) =
      (.ok (), { s with printed := s.printed ++ [line.text] }) :=
  rfl

/-- The session with more lines printed. -/
def saying (s : Session) (lines : List Text) : Session :=
  { s with printed := s.printed ++ lines }

/-- In a session lines are printed with their markup unread. -/
theorem run_sayLines (s : Session) (lines : List Line) :
    s.run (lines.forM Reporting.say) = (.ok (), s.saying (lines.map Line.text)) := by
  induction lines generalizing s with
  | nil => simp [saying]
  | cons line lines ih =>
      change s.run (Reporting.say line >>= fun _ => lines.forM Reporting.say) = _
      rw [run_bind_of_ok (run_say s line), ih, saying, List.append_assoc]
      rfl

theorem run_sayAll (s : Session) (lines : List Text) :
    s.run (sayAll lines) = (.ok (), s.saying lines) := by
  have htext : (lines.map Line.plain).map Line.text = lines := by
    rw [List.map_map]
    exact List.map_id lines
  rw [sayAll, run_sayLines, htext]

/-- The session with one more note, if notes are kept. -/
def noting (s : Session) (step : Note) : Session :=
  if s.verbose then { s with notes := s.notes ++ [step] } else s

@[simp] theorem run_note (s : Session) (step : Note) :
    s.run (Reporting.note step) = (.ok (), s.noting step) := rfl

@[simp] theorem tree_noting (s : Session) (step : Note) :
    (s.noting step).tree = s.tree := by
  unfold noting
  split <;> rfl

@[simp] theorem here_noting (s : Session) (step : Note) :
    (s.noting step).here = s.here := by
  unfold noting
  split <;> rfl

@[simp] theorem printed_noting (s : Session) (step : Note) :
    (s.noting step).printed = s.printed := by
  unfold noting
  split <;> rfl

/-- The session with more notes, if notes are kept. -/
def notingAll (s : Session) (steps : List Note) : Session :=
  steps.foldl noting s

theorem run_noteAll (s : Session) (found : List RegistrationNote) :
    s.run (found.forM fun note => Reporting.note (.registration note)) =
      (.ok (), s.notingAll (found.map .registration)) := by
  induction found generalizing s with
  | nil => rfl
  | cons note found ih =>
      change s.run (Reporting.note (.registration note) >>= fun _ => _) = _
      rw [run_bind_of_ok (run_note s _)]
      exact ih _

@[simp] theorem tree_notingAll (s : Session) (steps : List Note) :
    (s.notingAll steps).tree = s.tree := by
  induction steps generalizing s with
  | nil => rfl
  | cons step steps ih => exact (ih _).trans (tree_noting s step)

@[simp] theorem here_notingAll (s : Session) (steps : List Note) :
    (s.notingAll steps).here = s.here := by
  induction steps generalizing s with
  | nil => rfl
  | cons step steps ih => exact (ih _).trans (here_noting s step)

end Session

end ModuleScaffold
