import ModuleScaffold.Files.Host
import ModuleScaffold.Proofs.Files.Refusal

/-!
# What an action does on a host

`Host.run` gives the result of an action and the host behind it.  The platform refuses
an operation, and then nothing happens but that a write may have got some bytes into the
file; or the operation does what it does to the session.

An action therefore maintains what each of its operations maintains in a session,
whatever is refused, and where nothing is refused it mirrors the action on the session.
Both go through sequences and handlers, so they are read off the steps of an action.
-/

namespace ModuleScaffold

namespace Platform

/-- The platform refuses some such operation on the path. -/
def Refuses (platform : Platform) (operation : Operation) (path : Path) : Prop :=
  ∃ count, platform.refusal? count operation path ≠ none

/-- The platform has no refusals of its own. -/
def IsPlain (platform : Platform) : Prop :=
  ∀ operation path, ¬ platform.Refuses operation path

end Platform

namespace Host

variable {platform : Platform} {α β : Type} {h h' : Host}

instance : LawfulMonad (HostM platform) :=
  inferInstanceAs (LawfulMonad (ExceptT HostFailure (StateM Host)))

/-- The result of an action and the host behind it. -/
def run (h : Host) (action : HostM platform α) : Except HostFailure α × Host :=
  action h

@[simp] theorem run_pure (h : Host) (a : α) :
    h.run (pure a : HostM platform α) = (.ok a, h) := rfl

@[simp] theorem run_throw (h : Host) (f : Failure) :
    h.run (throw f : HostM platform α) = (.error (.files f), h) := rfl

theorem run_bind (h : Host) (x : HostM platform α) (k : α → HostM platform β) :
    h.run (x >>= k) =
      match h.run x with
      | (.ok a, h') => h'.run (k a)
      | (.error e, h') => (.error e, h') := by
  unfold run
  change ExceptT.bind (m := StateM Host) x k h = _
  simp only [ExceptT.bind, ExceptT.mk, bind, StateT.bind]
  rcases x h with ⟨_ | _, _⟩ <;> rfl

theorem run_tryCatch (h : Host) (x : HostM platform α)
    (handler : Failure → HostM platform α) :
    h.run (tryCatch x handler) =
      match h.run x with
      | (.error (.files f), h') => h'.run (handler f)
      | result => result := rfl

theorem run_bind_of_ok {x : HostM platform α} {a : α} (hx : h.run x = (.ok a, h'))
    (k : α → HostM platform β) : h.run (x >>= k) = h'.run (k a) := by
  rw [run_bind, hx]

theorem run_bind_of_error {x : HostM platform α} {e : HostFailure}
    (hx : h.run x = (.error e, h')) (k : α → HostM platform β) :
    h.run (x >>= k) = (.error e, h') := by
  rw [run_bind, hx]

theorem run_map (h : Host) (g : α → β) (x : HostM platform α) :
    h.run (g <$> x) = ((h.run x).1.map g, (h.run x).2) := by
  rw [map_eq_pure_bind, run_bind]
  rcases h.run x with ⟨_ | _, _⟩ <;> rfl

theorem run_lift (h : Host) (x : SessionM α) :
    h.run (lift x : HostM platform α) =
      ((h.session.run x).1.mapError .files, { h with session := (h.session.run x).2 }) := by
  unfold run lift Session.run
  rcases x h.session with ⟨_ | _, _⟩ <;> rfl

theorem run_lift_eq {x : SessionM α} {r : Except Failure α} {s : Session}
    (hx : h.session.run x = (r, s)) :
    h.run (lift x : HostM platform α) = (r.mapError .files, { h with session := s }) := by
  rw [run_lift, hx]

/-- The host after one more operation. -/
def counted (h : Host) : Host :=
  { h with operations := h.operations + 1 }

@[simp] theorem session_counted (h : Host) : h.counted.session = h.session := rfl

/-- The refusal of the next operation, if the platform has one for a path without the null
character. -/
def refusal? (h : Host) (platform : Platform) (operation : Operation) (path : Path) :
    Option Refusal :=
  if path.names.any fun name => '\x00' ∈ name then
    none
  else
    platform.refusal? h.operations operation path

theorem run_refusal (h : Host) (operation : Operation) (path : Path) :
    h.run (refusal operation path : HostM platform _) =
      (.ok (h.refusal? platform operation path), h.counted) := rfl

theorem refuses_of_refusal? {operation : Operation} {path : Path} {refused : Refusal}
    (hrefused : h.refusal? platform operation path = some refused) :
    platform.Refuses operation path ∧ path.IsClean := by
  rw [refusal?] at hrefused
  split at hrefused
  · contradiction
  next hnull =>
    refine ⟨⟨h.operations, by simp [hrefused]⟩, fun name hmem hname => ?_⟩
    exact hnull (List.any_eq_true.2 ⟨name, hmem, by simpa using hname⟩)

/-- An operation is refused by the platform, or does what it does to the session. -/
theorem run_operate_cases (platform : Platform) (h : Host) (operation : Operation)
    (path : Path) (x : SessionM α) :
    h.run (operate operation path x : HostM platform α) =
        h.counted.run (lift x : HostM platform α) ∨
      platform.Refuses operation path ∧ path.IsClean ∧ ∃ cause,
        h.run (operate operation path x : HostM platform α) =
          (.error (.files (.refused cause path)), h.counted) := by
  rw [operate, run_bind_of_ok (run_refusal h operation path)]
  cases hrefused : h.refusal? platform operation path with
  | none => exact .inl rfl
  | some refused =>
      obtain ⟨hrefuses, hclean⟩ := refuses_of_refusal? hrefused
      exact .inr ⟨hrefuses, hclean, refused.cause, rfl⟩

/-- What a look at a path tells.  One that is refused may count as finding nothing. -/
def looked (h : Host) (platform : Platform) (path : Path) :
    Except HostFailure (Option Entry) :=
  match h.refusal? platform .look path with
  | none => (h.session.run (Session.find path)).1.mapError .files
  | some refused =>
    if refused.cause.isAbsence then .ok none
    else .error (.files (.refused refused.cause path))

/-- Nothing is found at a path with the null character. -/
theorem looked_of_not_isClean {path : Path} (hclean : ¬ path.IsClean) :
    h.looked platform path = .ok none := by
  have hnone : h.refusal? platform .look path = none := by
    by_contra hsome
    obtain ⟨refused, hrefused⟩ := Option.ne_none_iff_exists'.1 hsome
    exact hclean (refuses_of_refusal? hrefused).2
  rw [looked, hnone, Session.run_find, Session.locate_of_not_isClean hclean]
  rfl

theorem run_find (h : Host) (path : Path) :
    h.run (find path : HostM platform _) = (h.looked platform path, h.counted) := by
  rw [find, run_bind_of_ok (run_refusal h .look path), looked]
  cases h.refusal? platform .look path with
  | none =>
      have hsame : h.session.run (Session.find path) =
          ((h.session.run (Session.find path)).1, h.session) := by
        rw [Session.run_find]
      exact run_lift_eq (h := h.counted) hsame
  | some refused =>
      dsimp only
      split <;> rfl

theorem run_isThere (platform : Platform) (h : Host) (path : Path) :
    h.run (FileAccess.isThere path : HostM platform Bool) =
      ((h.looked platform path).map Option.isSome, h.counted) := by
  have hrun : h.run (FileAccess.isThere path : HostM platform Bool) =
      ((h.run (find path : HostM platform _)).1.map Option.isSome,
        (h.run (find path : HostM platform _)).2) := run_map h _ _
  rw [hrun, run_find]

theorem run_note (h : Host) (step : Note) :
    h.run (Reporting.note step : HostM platform Unit) =
      (.ok (), { h with session := h.session.noting step }) := rfl

/-- A write is refused by the platform, perhaps behind the first bytes, or it does what it
does to the session. -/
theorem run_write_cases (platform : Platform) (h : Host) (path : Path) (bytes : ByteArray) :
    h.run (FileAccess.write path bytes : HostM platform Unit) =
        h.counted.run (lift (FileAccess.write path bytes) : HostM platform Unit) ∨
      platform.Refuses .write path ∧ path.IsClean ∧ ∃ cause,
        (h.run (FileAccess.write path bytes : HostM platform Unit) =
            (.error (.files (.refused cause path)), h.counted) ∨
          ∃ count, h.run (FileAccess.write path bytes : HostM platform Unit) =
            h.counted.run ((do
              lift (FileAccess.write path (bytes.extract 0 count))
              throw (.refused cause path)) : HostM platform Unit)) := by
  change h.run (write path bytes : HostM platform Unit) = _ ∨
    _ ∧ _ ∧ ∃ cause, (h.run (write path bytes : HostM platform Unit) = _ ∨ ∃ count,
      h.run (write path bytes : HostM platform Unit) = _)
  rw [write, run_bind_of_ok (run_refusal h .write path)]
  cases hrefused : h.refusal? platform .write path with
  | none => exact .inl rfl
  | some refused =>
      obtain ⟨hrefuses, hclean⟩ := refuses_of_refusal? hrefused
      obtain ⟨cause, written⟩ := refused
      refine .inr ⟨hrefuses, hclean, cause, ?_⟩
      cases written with
      | none => exact .inl rfl
      | some count => exact .inr ⟨count, rfl⟩

/-- An action that keeps a property of the session, whatever becomes of it. -/
def Maintains (I : Session → Prop) (action : HostM platform α) : Prop :=
  ∀ h : Host, I h.session → I (h.run action).2.session

section Maintains

variable {I : Session → Prop} {path : Path}

theorem maintains_pure (a : α) : Maintains I (pure a : HostM platform α) :=
  fun _ hI => hI

theorem maintains_throw (f : Failure) : Maintains I (throw f : HostM platform α) :=
  fun _ hI => hI

theorem Maintains.bind {x : HostM platform α} {k : α → HostM platform β}
    (hx : Maintains I x) (hk : ∀ a, Maintains I (k a)) : Maintains I (x >>= k) := by
  intro h hI
  have hfirst := hx h hI
  rw [run_bind]
  rcases hrun : h.run x with ⟨e | a, h'⟩
  · rwa [hrun] at hfirst
  · rw [hrun] at hfirst
    exact hk a h' hfirst

theorem Maintains.tryCatch {x : HostM platform α} {handler : Failure → HostM platform α}
    (hx : Maintains I x) (hh : ∀ f, Maintains I (handler f)) :
    Maintains I (tryCatch x handler) := by
  intro h hI
  have hfirst := hx h hI
  rw [run_tryCatch]
  rcases hrun : h.run x with ⟨(f | _) | a, h'⟩
  · rw [hrun] at hfirst
    exact hh f h' hfirst
  · rwa [hrun] at hfirst
  · rwa [hrun] at hfirst

theorem Maintains.map {x : HostM platform α} (g : α → β) (hx : Maintains I x) :
    Maintains I (g <$> x) := by
  rw [map_eq_pure_bind]
  exact hx.bind fun a => maintains_pure _

theorem maintains_mapM {xs : List α} {g : α → HostM platform β}
    (hg : ∀ x ∈ xs, Maintains I (g x)) : Maintains I (xs.mapM g) := by
  induction xs with
  | nil => exact maintains_pure []
  | cons x xs ih =>
      rw [List.forall_mem_cons] at hg
      rw [List.mapM_cons]
      exact hg.1.bind fun y => (ih hg.2).bind fun ys => maintains_pure _

theorem maintains_lift {x : SessionM α} (hx : ∀ s, I s → I (s.run x).2) :
    Maintains I (lift x : HostM platform α) := by
  intro h hI
  rw [run_lift]
  exact hx _ hI

theorem maintains_operate {x : SessionM α} (operation : Operation) (path : Path)
    (hx : ∀ s, I s → I (s.run x).2) :
    Maintains I (operate operation path x : HostM platform α) := by
  intro h hI
  rcases run_operate_cases platform h operation path x with
    hrun | ⟨-, -, cause, hrun⟩
  · rw [hrun]
    exact maintains_lift hx _ hI
  · rwa [hrun]

theorem maintains_find (path : Path) : Maintains I (find path : HostM platform _) := by
  intro h hI
  rwa [run_find]

theorem maintains_isThere (path : Path) :
    Maintains I (FileAccess.isThere path : HostM platform Bool) :=
  (maintains_find path).map Option.isSome

theorem maintains_isDirectory (path : Path) :
    Maintains I (FileAccess.isDirectory path : HostM platform Bool) :=
  (maintains_find path).map (· == some Entry.directory)

/-- The first bytes are written like all of them. -/
theorem maintains_write (bytes : ByteArray)
    (hI : ∀ s part, I s → I (s.run (FileAccess.write path part)).2) :
    Maintains I (FileAccess.write path bytes : HostM platform Unit) := by
  have hlift (part : ByteArray) :
      Maintains I (lift (FileAccess.write path part) : HostM platform Unit) :=
    maintains_lift fun s => hI s part
  intro h hs
  rcases run_write_cases platform h path bytes with
    hrun | ⟨-, -, cause, hrun | ⟨count, hrun⟩⟩
  · rw [hrun]
    exact hlift _ _ hs
  · rwa [hrun]
  · rw [hrun]
    exact (hlift _).bind (fun _ => maintains_throw _) _ hs

theorem maintains_note (step : Note) (hI : ∀ s, I s → I (s.noting step)) :
    Maintains I (Reporting.note step : HostM platform Unit) :=
  maintains_lift hI

theorem maintains_settle (tolerant : Bool) (path : Path) (f : Failure) :
    Maintains I (settle tolerant path f : HostM platform Unit) := by
  unfold settle
  split
  · exact maintains_throw _
  · split
    · refine (maintains_isDirectory path).bind fun b => ?_
      cases b
      · exact maintains_throw _
      · exact maintains_pure ()
    · exact maintains_throw _
  · exact maintains_throw _

/-- What the creation of each directory keeps is kept by creating them all. -/
theorem maintains_makeLineage (tolerant : Bool) {paths : List Path}
    (hI : ∀ path ∈ paths, ∀ s, I s → I (s.run (FileAccess.makeDirectory path)).2) :
    Maintains I (makeLineage tolerant paths : HostM platform Unit) := by
  induction paths generalizing tolerant with
  | nil => exact maintains_pure ()
  | cons path above ih =>
      rw [List.forall_mem_cons] at hI
      have hmake : Maintains I (FileAccess.makeDirectory path : HostM platform Unit) :=
        maintains_operate .makeDirectory path hI.1
      refine hmake.tryCatch fun f => ?_
      split
      · refine (ih true hI.2).bind fun _ => ?_
        exact hmake.tryCatch fun f => maintains_settle _ _ _
      · exact maintains_settle _ _ _

end Maintains

/-- An action that fails with refusals only. -/
def Refuses (action : HostM platform α) : Prop :=
  ∀ (h : Host) (e : HostFailure), (h.run action).1 = .error e →
    ∃ cause path, e = .files (.refused cause path)

section Refuses

variable {path : Path}

theorem refuses_pure (a : α) : Refuses (pure a : HostM platform α) :=
  fun _ _ h => nomatch h

theorem refuses_throw (cause : Cause) (path : Path) :
    Refuses (throw (.refused cause path) : HostM platform α) :=
  fun _ _ h => ⟨cause, path, (Except.error.inj h).symm⟩

theorem Refuses.bind {x : HostM platform α} {k : α → HostM platform β} (hx : Refuses x)
    (hk : ∀ a, Refuses (k a)) : Refuses (x >>= k) := by
  intro h e hfail
  rw [run_bind] at hfail
  rcases hrun : h.run x with ⟨e' | a, h'⟩
  · rw [hrun] at hfail
    obtain rfl := Except.error.inj hfail
    exact hx h e' (congrArg Prod.fst hrun)
  · rw [hrun] at hfail
    exact hk a h' e hfail

theorem Refuses.tryCatch {x : HostM platform α} {handler : Failure → HostM platform α}
    (hx : Refuses x) (hh : ∀ cause path, Refuses (handler (.refused cause path))) :
    Refuses (tryCatch x handler) := by
  intro h e hfail
  rw [run_tryCatch] at hfail
  rcases hrun : h.run x with ⟨e' | a, h'⟩
  · obtain ⟨cause, path, rfl⟩ := hx h e' (congrArg Prod.fst hrun)
    rw [hrun] at hfail
    exact hh cause path h' e hfail
  · rw [hrun] at hfail
    contradiction

theorem Refuses.map {x : HostM platform α} (g : α → β) (hx : Refuses x) :
    Refuses (g <$> x) := by
  rw [map_eq_pure_bind]
  exact hx.bind fun a => refuses_pure _

theorem refuses_lift {x : SessionM α} (hx : Session.Refuses x) :
    Refuses (lift x : HostM platform α) := by
  intro h e hfail
  rw [run_lift] at hfail
  cases hrun : (h.session.run x).1 with
  | ok a => simp [hrun, Except.mapError] at hfail
  | error f =>
      obtain ⟨cause, path, rfl⟩ := hx h.session f hrun
      rw [hrun] at hfail
      exact ⟨cause, path, (Except.error.inj hfail).symm⟩

theorem refuses_operate {x : SessionM α} (operation : Operation) (path : Path)
    (hx : Session.Refuses x) : Refuses (operate operation path x : HostM platform α) := by
  intro h e hfail
  rcases run_operate_cases platform h operation path x with
    hrun | ⟨-, -, cause, hrun⟩
  · exact refuses_lift hx h.counted e (hrun ▸ hfail)
  · rw [hrun] at hfail
    exact ⟨cause, path, (Except.error.inj hfail).symm⟩

theorem refuses_find (path : Path) : Refuses (find path : HostM platform _) := by
  intro h e hfail
  rw [run_find, looked] at hfail
  cases hrefused : h.refusal? platform .look path with
  | none =>
      cases hfind : (h.session.run (Session.find path)).1 with
      | ok found => simp [hrefused, hfind, Except.mapError] at hfail
      | error f =>
          obtain ⟨cause, other, rfl⟩ := Session.refuses_find path h.session f hfind
          simp only [hrefused, hfind, Except.mapError, Except.error.injEq] at hfail
          exact ⟨cause, other, hfail.symm⟩
  | some refused =>
      simp only [hrefused] at hfail
      split at hfail
      · contradiction
      · exact ⟨refused.cause, path, (Except.error.inj hfail).symm⟩

theorem refuses_isDirectory (path : Path) :
    Refuses (FileAccess.isDirectory path : HostM platform Bool) :=
  (refuses_find path).map (· == some Entry.directory)

theorem refuses_write (hclean : path.IsClean) (bytes : ByteArray) :
    Refuses (FileAccess.write path bytes : HostM platform Unit) := by
  intro h e hfail
  rcases run_write_cases platform h path bytes with
    hrun | ⟨-, -, cause, hrun | ⟨count, hrun⟩⟩
  · exact refuses_lift (Session.refuses_write hclean bytes) h.counted e (hrun ▸ hfail)
  · rw [hrun] at hfail
    exact ⟨cause, path, (Except.error.inj hfail).symm⟩
  · refine Refuses.bind (refuses_lift (Session.refuses_write hclean _))
      (fun _ => refuses_throw cause path) h.counted e (hrun ▸ hfail)

theorem refuses_makeDirectory (hclean : path.IsClean) :
    Refuses (FileAccess.makeDirectory path : HostM platform Unit) :=
  refuses_operate .makeDirectory path (Session.refuses_makeDirectory hclean)

theorem refuses_move {source target : Path} (hsource : source.IsClean)
    (htarget : target.IsClean) :
    Refuses (FileAccess.move source target : HostM platform Unit) :=
  refuses_operate .move source (Session.refuses_move hsource htarget)

theorem refuses_copyPermissions {source target : Path} (hsource : source.IsClean)
    (htarget : target.IsClean) :
    Refuses (FileAccess.copyPermissions source target : HostM platform Unit) :=
  (refuses_operate .readPermissions source (Session.refuses_permissions hsource)).bind
    fun bits => refuses_operate .setPermissions target
      (Session.refuses_setPermissions htarget bits)

theorem refuses_settle (tolerant : Bool) (path : Path) (cause : Cause) (other : Path) :
    Refuses (settle tolerant path (.refused cause other) : HostM platform Unit) := by
  unfold settle
  split
  · exact refuses_throw _ _
  · split
    · refine (refuses_isDirectory path).bind fun b => ?_
      cases b
      · exact refuses_throw _ _
      · exact refuses_pure ()
    · exact refuses_throw _ _
  · exact refuses_throw _ _

theorem refuses_makeLineage (tolerant : Bool) {paths : List Path}
    (hclean : ∀ path ∈ paths, path.IsClean) :
    Refuses (makeLineage tolerant paths : HostM platform Unit) := by
  induction paths generalizing tolerant with
  | nil => exact refuses_pure ()
  | cons path above ih =>
      rw [List.forall_mem_cons] at hclean
      refine (refuses_makeDirectory hclean.1).tryCatch fun cause other => ?_
      split
      · refine (ih true hclean.2).bind fun _ => ?_
        exact (refuses_makeDirectory hclean.1).tryCatch fun cause other =>
          refuses_settle _ _ _ _
      · exact refuses_settle _ _ _ _

theorem refuses_makeDirectories (tolerant : Bool) (hclean : path.IsClean) :
    Refuses (makeDirectories tolerant path : HostM platform Unit) :=
  refuses_makeLineage tolerant fun _ habove => hclean.of_mem_lineage habove

end Refuses

end Host

end ModuleScaffold
