import ModuleScaffold.Proofs.Files.Host

/-!
# Hosts that refuse nothing

On a platform without refusals of its own an action does on a host what it does to the
session.  What holds of every host therefore holds of sessions.
-/

namespace ModuleScaffold

theorem Platform.isPlain_plain : Platform.plain.IsPlain := by
  rintro operation path ⟨count, hrefused⟩
  exact hrefused rfl

namespace Host

variable {platform : Platform} {α β : Type}

/-- The action on a host has the result of the action on its session, and the same
effect. -/
def Mirrors (x : HostM platform α) (y : SessionM α) : Prop :=
  ∀ h : Host, (h.run x).1 = (h.session.run y).1.mapError .files ∧
    (h.run x).2.session = (h.session.run y).2

/-- What an action keeps on hosts it keeps on sessions. -/
theorem Mirrors.maintains {x : HostM platform α} {y : SessionM α} {I : Session → Prop}
    (hxy : Mirrors x y) (hx : Maintains I x) {s : Session} (hI : I s) : I (s.run y).2 :=
  (hxy ⟨s, 0⟩).2 ▸ hx ⟨s, 0⟩ hI

theorem Mirrors.refuses {x : HostM platform α} {y : SessionM α} (hxy : Mirrors x y)
    (hx : Refuses x) : Session.Refuses y := by
  intro s f hfail
  obtain ⟨cause, path, hcause⟩ := hx ⟨s, 0⟩ (.files f) (by rw [(hxy ⟨s, 0⟩).1, hfail]; rfl)
  exact ⟨cause, path, HostFailure.files.inj hcause⟩

theorem mirrors_pure (a : α) : Mirrors (pure a : HostM platform α) (pure a) :=
  fun _ => ⟨rfl, rfl⟩

theorem mirrors_throw (f : Failure) : Mirrors (throw f : HostM platform α) (throw f) :=
  fun _ => ⟨rfl, rfl⟩

theorem Mirrors.bind {x : HostM platform α} {y : SessionM α}
    {k : α → HostM platform β} {l : α → SessionM β} (hxy : Mirrors x y)
    (hkl : ∀ a, Mirrors (k a) (l a)) : Mirrors (x >>= k) (y >>= l) := by
  intro h
  obtain ⟨hresult, hsession⟩ := hxy h
  rw [run_bind, Session.run_bind]
  rcases hrun : h.session.run y with ⟨f | a, s⟩
  all_goals
    rcases hhost : h.run x with ⟨r, h'⟩
    rw [hrun, hhost] at hresult hsession
    obtain rfl : r = _ := hresult
    obtain rfl : h'.session = s := hsession
  · exact ⟨rfl, rfl⟩
  · exact hkl a h'

theorem Mirrors.tryCatch {x : HostM platform α} {y : SessionM α}
    {k : Failure → HostM platform α} {l : Failure → SessionM α} (hxy : Mirrors x y)
    (hkl : ∀ f, Mirrors (k f) (l f)) : Mirrors (tryCatch x k) (tryCatch y l) := by
  intro h
  obtain ⟨hresult, hsession⟩ := hxy h
  rw [run_tryCatch, Session.run_tryCatch]
  rcases hrun : h.session.run y with ⟨f | a, s⟩
  all_goals
    rcases hhost : h.run x with ⟨r, h'⟩
    rw [hrun, hhost] at hresult hsession
    obtain rfl : r = _ := hresult
    obtain rfl : h'.session = s := hsession
  · exact hkl f h'
  · exact ⟨rfl, rfl⟩

theorem Mirrors.map {x : HostM platform α} {y : SessionM α} (g : α → β)
    (hxy : Mirrors x y) : Mirrors (g <$> x) (g <$> y) := by
  rw [map_eq_pure_bind, map_eq_pure_bind]
  exact hxy.bind fun a => mirrors_pure _

theorem mirrors_forM {xs : List α} {g : α → HostM platform PUnit}
    {k : α → SessionM PUnit} (hgk : ∀ x ∈ xs, Mirrors (g x) (k x)) :
    Mirrors (xs.forM g) (xs.forM k) := by
  induction xs with
  | nil => exact mirrors_pure _
  | cons x xs ih =>
      rw [List.forall_mem_cons] at hgk
      exact hgk.1.bind fun _ => ih hgk.2

theorem mirrors_mapM {xs : List α} {g : α → HostM platform β} {k : α → SessionM β}
    (hgk : ∀ x ∈ xs, Mirrors (g x) (k x)) : Mirrors (xs.mapM g) (xs.mapM k) := by
  induction xs with
  | nil => exact mirrors_pure _
  | cons x xs ih =>
      rw [List.forall_mem_cons] at hgk
      rw [List.mapM_cons, List.mapM_cons]
      exact hgk.1.bind fun y => (ih hgk.2).bind fun ys => mirrors_pure _

theorem mirrors_lift (x : SessionM α) : Mirrors (lift x : HostM platform α) x := by
  intro h
  rw [run_lift]
  exact ⟨rfl, rfl⟩

theorem mirrors_operate {operation : Operation} {path : Path}
    (hno : ¬ platform.Refuses operation path) (x : SessionM α) :
    Mirrors (operate operation path x : HostM platform α) x := by
  intro h
  rcases run_operate_cases platform h operation path x with hrun | ⟨hrefuses, -⟩
  · rw [hrun]
    exact mirrors_lift x h.counted
  · contradiction

theorem mirrors_find {path : Path} (hno : ¬ platform.Refuses .look path) :
    Mirrors (find path : HostM platform _) (Session.find path) := by
  intro h
  have hnone : h.refusal? platform .look path = none := by
    by_contra hsome
    obtain ⟨refused, hrefused⟩ := Option.ne_none_iff_exists'.1 hsome
    exact hno (refuses_of_refusal? hrefused).1
  rw [run_find, looked, hnone, Session.run_find]
  exact ⟨rfl, rfl⟩

theorem mirrors_write {path : Path} (hno : ¬ platform.Refuses .write path)
    (bytes : ByteArray) :
    Mirrors (FileAccess.write path bytes : HostM platform Unit)
      (FileAccess.write path bytes) := by
  intro h
  rcases run_write_cases platform h path bytes with hrun | ⟨hrefuses, -⟩
  · rw [hrun]
    exact mirrors_lift _ h.counted
  · contradiction

theorem mirrors_copyPermissions {source target : Path}
    (hsource : ¬ platform.Refuses .readPermissions source)
    (htarget : ¬ platform.Refuses .setPermissions target) :
    Mirrors (FileAccess.copyPermissions source target : HostM platform Unit)
      (FileAccess.copyPermissions source target) :=
  (mirrors_operate hsource _).bind fun _ => mirrors_operate htarget _

section Plain

variable (hplain : platform.IsPlain)
include hplain

theorem mirrors_isThere (path : Path) :
    Mirrors (FileAccess.isThere path : HostM platform Bool) (FileAccess.isThere path) :=
  (mirrors_find (hplain .look path)).map Option.isSome

theorem mirrors_isDirectory (path : Path) :
    Mirrors (FileAccess.isDirectory path : HostM platform Bool)
      (FileAccess.isDirectory path) :=
  (mirrors_find (hplain .look path)).map (· == some Entry.directory)

theorem mirrors_settle (tolerant : Bool) (path : Path) (f : Failure) :
    Mirrors (settle tolerant path f : HostM platform Unit) (settle tolerant path f) := by
  unfold settle
  split
  · exact mirrors_throw _
  · split
    · refine (mirrors_isDirectory hplain path).bind fun b => ?_
      cases b
      · exact mirrors_throw _
      · exact mirrors_pure ()
    · exact mirrors_throw _
  · exact mirrors_throw _

theorem mirrors_makeLineage (tolerant : Bool) (paths : List Path) :
    Mirrors (makeLineage tolerant paths : HostM platform Unit)
      (makeLineage tolerant paths) := by
  induction paths generalizing tolerant with
  | nil => exact mirrors_pure ()
  | cons path above ih =>
      refine (mirrors_operate (hplain .makeDirectory path) _).tryCatch fun f => ?_
      split
      · refine (ih true).bind fun _ => ?_
        exact (mirrors_operate (hplain .makeDirectory path) _).tryCatch fun f =>
          mirrors_settle hplain _ _ _
      · exact mirrors_settle hplain _ _ _

theorem mirrors_readText (path : Path) :
    Mirrors (readText path : HostM platform Text) (readText path) := by
  refine (mirrors_operate (hplain .read path) _).bind fun bytes => ?_
  cases Text.decode? bytes with
  | none => exact mirrors_throw _
  | some t => exact mirrors_pure t

theorem mirrors_removeIfThere (path : Path) :
    Mirrors (removeIfThere path : HostM platform Unit) (removeIfThere path) := by
  refine (mirrors_operate (hplain .remove path) _).tryCatch fun f => ?_
  split
  · exact mirrors_pure ()
  · exact mirrors_throw _

theorem mirrors_replaceText (path : Path) (t : Text) :
    Mirrors (replaceText path t : HostM platform Unit) (replaceText path t) := by
  refine Mirrors.tryCatch ?_ fun f => ?_
  · refine (mirrors_write (hplain _ _) _).bind fun _ => ?_
    exact (mirrors_copyPermissions (hplain _ _) (hplain _ _)).bind fun _ =>
      mirrors_operate (hplain .move _) _
  · split
    · exact (mirrors_removeIfThere hplain _).bind fun _ => mirrors_throw _
    · exact mirrors_throw _

theorem mirrors_patch (path : Path) (n : ModuleName) :
    Mirrors (patch path n : HostM platform Outcome) (patch path n) := by
  refine (mirrors_isThere hplain path).bind fun there => ?_
  cases there with
  | false => exact (mirrors_lift _).bind fun _ => mirrors_pure _
  | true =>
      refine (mirrors_readText hplain path).bind fun t => ?_
      refine (mirrors_forM fun _ _ => mirrors_lift _).bind fun _ => ?_
      split
      · exact (mirrors_replaceText hplain path _).bind fun _ =>
          (mirrors_lift _).bind fun _ => mirrors_pure _
      · exact mirrors_pure _

theorem mirrors_writeArtifact (directory : Path) (artifact : Artifact) :
    Mirrors (writeArtifact directory artifact : HostM platform Text)
      (writeArtifact directory artifact) :=
  (mirrors_write (hplain _ _) _).bind fun _ => (mirrors_lift _).bind fun _ => mirrors_pure _

theorem mirrors_materialize (directory : Path) (artifacts : List Artifact) :
    Mirrors (materialize directory artifacts : HostM platform (List Text))
      (materialize directory artifacts) := by
  refine Mirrors.bind (Mirrors.tryCatch (mirrors_makeLineage hplain false _) fun f => ?_)
    fun _ => (mirrors_lift _).bind fun _ =>
      mirrors_mapM fun artifact _ => mirrors_writeArtifact hplain directory artifact
  split <;> exact mirrors_throw _

end Plain

end Host

theorem Session.refuses_makeDirectories {path : Path} (tolerant : Bool)
    (hclean : path.IsClean) :
    Session.Refuses (makeDirectories tolerant path : SessionM Unit) :=
  (Host.mirrors_makeLineage Platform.isPlain_plain tolerant path.lineage).refuses
    (Host.refuses_makeDirectories tolerant hclean)

end ModuleScaffold
