import ModuleScaffold.Proofs.Files.Location

/-!
# Operations that can only be refused

On a path without the null character an operation on the files of a session fails in one
way: it is refused.
-/

namespace ModuleScaffold

namespace Path

theorem IsClean.take {path : Path} (h : path.IsClean) (k : Nat) :
    ({ path with names := path.names.take k } : Path).IsClean :=
  fun name hname => h name (List.mem_of_mem_take hname)

theorem IsClean.of_mem_lineage {path above : Path} (h : path.IsClean)
    (habove : above ∈ path.lineage) : above.IsClean := by
  obtain ⟨k, -, rfl⟩ := List.mem_map.1 habove
  exact h.take k

end Path

namespace Session

variable {α β : Type} {path : Path}

/-- An action that fails with refusals only. -/
def Refuses (action : SessionM α) : Prop :=
  ∀ (s : Session) (f : Failure), (s.run action).1 = .error f →
    ∃ cause path, f = .refused cause path

theorem refuses_pure (a : α) : Refuses (pure a) := fun _ _ h => nomatch h

theorem refuses_throw (cause : Cause) (path : Path) :
    Refuses (throw (.refused cause path) : SessionM α) := by
  intro s f h
  rw [run_throw] at h
  exact ⟨cause, path, (Except.error.inj h).symm⟩

theorem Refuses.bind {x : SessionM α} {k : α → SessionM β} (hx : Refuses x)
    (hk : ∀ a, Refuses (k a)) : Refuses (x >>= k) := by
  intro s f h
  have hrun : s.run (x >>= k) = (.error f, (s.run (x >>= k)).2) := Prod.ext h rfl
  rcases run_bind_error_cases hrun with hfirst | ⟨a, s', -, hlater⟩
  · exact hx s f (congrArg Prod.fst hfirst)
  · exact hk a s' f (congrArg Prod.fst hlater)

theorem refuses_lookUp (hclean : path.IsClean) (goal : Goal) :
    Refuses (lookUp goal path) := by
  intro s f h
  rw [run_lookUp] at h
  cases hplace : s.locate goal path with
  | ok place => simp [hplace, Except.map] at h
  | error e =>
      obtain ⟨cause, rfl⟩ := exists_cause_of_locate hclean hplace
      simp only [hplace, Except.map, Except.error.injEq] at h
      exact ⟨cause, path, h.symm⟩

theorem refuses_setTree (tree : FileTree) : Refuses (setTree tree) :=
  fun _ _ h => nomatch h

theorem refuses_get : Refuses get := fun _ _ h => nomatch h

theorem refuses_write (hclean : path.IsClean) (bytes : ByteArray) :
    Refuses (FileAccess.write path bytes : SessionM Unit) := by
  refine (refuses_lookUp hclean .file).bind fun (place, found) =>
    refuses_get.bind fun s => ?_
  rcases found with _ | _ | _ | _
  · exact refuses_setTree _
  · exact refuses_throw _ _
  · exact refuses_setTree _
  · exact refuses_throw _ _

theorem refuses_makeDirectory (hclean : path.IsClean) :
    Refuses (FileAccess.makeDirectory path : SessionM Unit) := by
  refine (refuses_lookUp hclean .entry).bind fun (place, found) => ?_
  rcases found with _ | entry
  · exact refuses_get.bind fun s => refuses_setTree _
  · exact (refuses_throw _ _).bind fun _ => refuses_get.bind fun s => refuses_setTree _

theorem refuses_move {source target : Path} (hsource : source.IsClean)
    (htarget : target.IsClean) :
    Refuses (FileAccess.move source target : SessionM Unit) := by
  refine (refuses_lookUp hsource .entry).bind fun (sourcePlace, found) =>
    (refuses_lookUp htarget .entry).bind fun (targetPlace, present) => ?_
  rcases found with _ | _ | _ | _
  · exact refuses_throw _ _
  · exact refuses_throw _ _
  all_goals
    dsimp only
    split
    · exact refuses_throw _ _
    · exact refuses_get.bind fun s => refuses_setTree _

theorem refuses_findFile (hclean : path.IsClean) : Refuses (findFile path) := by
  refine (refuses_lookUp hclean .target).bind fun (place, found) => ?_
  rcases found with _ | _ | _ | _
  · exact refuses_throw _ _
  · exact refuses_throw _ _
  · exact refuses_pure _
  · exact refuses_throw _ _

theorem refuses_setPermissions (hclean : path.IsClean) (permissions : Nat) :
    Refuses (setPermissions path permissions) :=
  (refuses_findFile hclean).bind fun _ => refuses_get.bind fun _ => refuses_setTree _

theorem refuses_permissions (hclean : path.IsClean) : Refuses (permissions path) := by
  refine (refuses_lookUp hclean .target).bind fun (place, found) => ?_
  rcases found with _ | _ | _ | _
  · exact refuses_throw _ _
  · exact refuses_pure _
  · exact refuses_pure _
  · exact refuses_pure _

theorem refuses_find (path : Path) : Refuses (find path) := by
  intro s f h
  rw [run_find] at h
  split at h
  · contradiction
  · exact ⟨_, _, (Except.error.inj h).symm⟩
  · contradiction

end Session

end ModuleScaffold
