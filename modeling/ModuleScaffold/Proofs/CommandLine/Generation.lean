import ModuleScaffold.Proofs.Files.Plain

/-!
# The steps of a run

A command line asks for one generation or for none.  Without one the run prints a
message, ends with an exit code and leaves the files alone.  A generation is taken
apart into its steps here: it looks for the target directory, writes the artifacts,
and updates the root module, and each step decides how the run goes on.

Printing is the only step behind an update that may fail: the root module is named in the
report as the option names it, and the markup in that may not be readable.  Without markup
in the option, a run on a host that refuses nothing is the run in its session.
-/

namespace ModuleScaffold

/-- A module to generate: whether each step is reported, where, and its name. -/
structure Generation where
  verbose : Bool
  config : Config
  name : ModuleName
deriving DecidableEq

namespace Generation

/-- The directory of the module. -/
def target (g : Generation) : Path :=
  g.config.targetDirectory g.name

def artifacts (g : Generation) : List Artifact :=
  buildArtifacts g.config.backend g.name

end Generation

/-- The generation that a command line asks for, if nothing is wrong with it. -/
def generation? (arguments : List Text) (environment : Environment)
    (here : Location) : Option Generation :=
  match Invocation.ofArguments arguments with
  | .generate o =>
    match o.name, o.backend with
    | some raw, .ok backend =>
      match ModuleName.derive raw with
      | .ok n => some ⟨o.verbose, o.config environment backend ⟨.root, here⟩, n⟩
      | .error _ => none
    | _, _ => none
  | _ => none

theorem exists_derive_of_generation? {arguments : List Text} {environment : Environment}
    {here : Location} {g : Generation}
    (h : generation? arguments environment here = some g) :
    ∃ raw, ModuleName.derive raw = .ok g.name := by
  unfold generation? at h
  split at h
  · split at h
    next raw _ _ _ =>
      split at h
      next n hn =>
        cases h
        exact ⟨raw, hn⟩
      next => contradiction
    next => contradiction
  · contradiction

section

variable {m : Type → Type} [Monad m] [MonadExceptOf Failure m] [FileAccess m] [Reporting m]

/-- A run with a generation chooses whether it is verbose, asks for the current directory
and generates. -/
theorem exists_config_of_generation? {arguments : List Text} {environment : Environment}
    {here : Location} {g : Generation}
    (hg : generation? arguments environment here = some g) :
    ∃ config : Path → Config, config ⟨.root, here⟩ = g.config ∧
      (runCommandLine arguments environment : m ExitCode) = (do
        Reporting.setVerbose g.verbose
        let currentDirectory ← FileAccess.currentDirectory
        generateModule (config currentDirectory) g.name) := by
  unfold generation? at hg
  unfold runCommandLine
  split at hg
  next o hinvocation =>
    split at hg
    next raw backend hname hbackend =>
      split at hg
      next n hderive =>
        obtain rfl := Option.some.inj hg
        refine ⟨o.config environment backend, rfl, ?_⟩
        simp only [hinvocation, generate, hname, hbackend, hderive]
      next => contradiction
    next => contradiction
  next => contradiction

end

namespace Session

variable {s s₁ s₂ : Session} {arguments : List Text} {environment : Environment}
  {g : Generation} {filenames : List Text} {outcome : Outcome}

/-- The session of a run that is verbose or not. -/
def withVerbose (s : Session) (verbose : Bool) : Session :=
  { s with verbose }

/-- The session in which the artifacts of a generation are written. -/
def beginning (s : Session) (g : Generation) : Session :=
  ((s.withVerbose g.verbose).noting (.rendered g.artifacts.length g.name.pascal
    g.config.backend)).saying (Lines.heading g.name g.config.backend)

@[simp] theorem tree_beginning (s : Session) (g : Generation) :
    (s.beginning g).tree = s.tree :=
  tree_noting _ _

@[simp] theorem here_beginning (s : Session) (g : Generation) :
    (s.beginning g).here = s.here :=
  here_noting _ _

theorem run_attempt_of_ok {α : Type} {x : SessionM α} {a : α}
    (hx : s.run x = (.ok a, s₁)) : s.run (attempt x) = (.ok (.ok a), s₁) := by
  rw [attempt, run_tryCatch, run_map, hx]
  rfl

/-- A generation in a session whose steps all succeed. -/
theorem run_generation_of_ok (hg : generation? arguments environment s.here = some g)
    (hthere : (s.run (FileAccess.isThere g.target)).1 = .ok false)
    (hartifacts : (s.beginning g).run (materialize g.target g.artifacts) =
      (.ok filenames, s₁))
    (hpatch : (s₁.saying (Lines.created filenames g.config.backend)).run
      (patch g.config.aggregatorPath g.name) = (.ok outcome, s₂)) :
    s.run (runCommandLine arguments environment) =
      (.ok 0, (s₂.saying ((Lines.registered g.config g.name outcome).map Line.text)).saying
        (Lines.done g.name)) := by
  obtain ⟨config, hconfig, hrun⟩ := exists_config_of_generation? (m := SessionM) hg
  have hverbose : s.run (Reporting.setVerbose g.verbose) =
      (.ok (), s.withVerbose g.verbose) := rfl
  have hcurrent : (s.withVerbose g.verbose).run FileAccess.currentDirectory =
      (.ok ⟨.root, s.here⟩, s.withVerbose g.verbose) := rfl
  have hlook : (s.withVerbose g.verbose).run
      (FileAccess.isThere (g.config.targetDirectory g.name)) =
        (.ok false, s.withVerbose g.verbose) := by
    rw [run_isThere] at hthere ⊢
    exact congrArg (·, _) hthere
  rw [hrun, run_bind_of_ok hverbose, run_bind_of_ok hcurrent, hconfig, generateModule]
  refine (run_bind_of_ok hlook _).trans ?_
  refine (run_bind_of_ok (run_note _ _) _).trans ?_
  refine (run_bind_of_ok (run_sayAll _ _) _).trans ?_
  refine (run_bind_of_ok (run_attempt_of_ok hartifacts) _).trans ?_
  refine (run_bind_of_ok (run_sayAll _ _) _).trans ?_
  have hreport : (s₁.saying (Lines.created filenames g.config.backend)).run
      (reportRegistration g.config g.name) =
        (.ok (), s₂.saying ((Lines.registered g.config g.name outcome).map Line.text)) := by
    rw [reportRegistration, run_bind_of_ok (run_attempt_of_ok hpatch)]
    exact run_sayLines _ _
  refine (run_bind_of_ok hreport _).trans ?_
  exact run_bind_of_ok (run_sayAll _ _) _

end Session

namespace Host

variable {platform : Platform} {α : Type} {h h' : Host} {lines : List Line}
  {arguments : List Text} {environment : Environment} {g : Generation}

/-- The host with more lines printed. -/
def saying (h : Host) (lines : List Text) : Host :=
  { h with session := h.session.saying lines }

theorem saying_nil (h : Host) : h.saying [] = h := by
  simp [saying, Session.saying]

theorem saying_saying (h : Host) (lines more : List Text) :
    (h.saying lines).saying more = h.saying (lines ++ more) := by
  simp [saying, Session.saying]

/-- The host of a run that is verbose or not. -/
def withVerbose (h : Host) (verbose : Bool) : Host :=
  { h with session := h.session.withVerbose verbose }

/-- The host on which the artifacts of a generation are written, which is after one
look. -/
def beginning (h : Host) (g : Generation) : Host :=
  { h.counted with session := h.session.beginning g }

theorem run_say (platform : Platform) (h : Host) (line : Line) :
    h.run (Reporting.say line : HostM platform Unit) =
      match line.read platform.styles with
      | .ok shown => (.ok (), h.saying [shown])
      | .error f => (.error (.markup f), h) := by
  change say line h = _
  rw [say]
  cases line.read platform.styles <;> rfl

/-- Lines are printed up to the first one whose markup cannot be read. -/
theorem exists_run_sayLines (platform : Platform) (h : Host) (lines : List Line) :
    ∃ said, h.run (lines.forM Reporting.say : HostM platform PUnit) =
        (match lines.mapM (Line.read platform.styles) with
          | .ok _ => .ok ()
          | .error f => .error (.markup f), h.saying said) ∧
      ∀ shown, lines.mapM (Line.read platform.styles) = .ok shown → said = shown := by
  induction lines generalizing h with
  | nil =>
      refine ⟨[], ?_, fun shown hread => Except.ok.inj hread⟩
      rw [saying_nil]
      rfl
  | cons line lines ih =>
      have hsay := run_say platform h line
      rw [List.mapM_cons]
      cases hline : line.read platform.styles with
      | error f =>
          rw [hline] at hsay
          refine ⟨[], (run_bind_of_error hsay _).trans ?_, fun shown hread => nomatch hread⟩
          rw [saying_nil]
          rfl
      | ok first =>
          rw [hline] at hsay
          obtain ⟨said, hrun, hsaid⟩ := ih (h.saying [first])
          refine ⟨first :: said, (run_bind_of_ok hsay _).trans (hrun.trans ?_), ?_⟩
          · rw [saying_saying, List.singleton_append]
            cases lines.mapM (Line.read platform.styles) <;> rfl
          · intro shown hread
            cases hlines : lines.mapM (Line.read platform.styles) with
            | error f =>
                rw [hlines] at hread
                cases hread
            | ok rest =>
                rw [hlines] at hread
                obtain rfl := Except.ok.inj hread
                rw [hsaid rest hlines]

theorem run_sayLines {shown : List Text}
    (hread : lines.mapM (Line.read platform.styles) = .ok shown) :
    h.run (lines.forM Reporting.say : HostM platform PUnit) = (.ok (), h.saying shown) := by
  obtain ⟨said, hrun, hsaid⟩ := exists_run_sayLines platform h lines
  rw [hrun, hsaid shown hread, hread]

theorem run_sayAll (h : Host) (lines : List Text) :
    h.run (sayAll lines : HostM platform Unit) = (.ok (), h.saying lines) := by
  refine run_sayLines ?_
  induction lines with
  | nil => rfl
  | cons line lines ih =>
      rw [List.map_cons, List.mapM_cons, ih]
      rfl

theorem run_attempt (h : Host) (x : HostM platform α) :
    h.run (attempt x) =
      match h.run x with
      | (.ok a, h') => (.ok (.ok a), h')
      | (.error (.files f), h') => (.ok (.error f), h')
      | (.error e, h') => (.error e, h') := by
  rw [attempt, run_tryCatch, run_map]
  rcases h.run x with ⟨(_ | _) | _, _⟩ <;> rfl

/-- How a run ends that updated the root module, or failed to. -/
def afterPatch (platform : Platform) (config : Config) (n : ModuleName) :
    Except HostFailure Outcome × Host → Except HostFailure ExitCode × Host
  | (.ok outcome, h) =>
    h.run ((do
      (Lines.registered config n outcome).forM Reporting.say
      sayAll (Lines.done n)
      return 0) : HostM platform ExitCode)
  | (.error (.files (.refused cause path)), h) =>
    (.ok 0, (h.saying (Lines.updateFailed config n (.refused cause path))).saying
      (Lines.done n))
  | (.error e, h) => (.error e, h)

/-- How a run goes on that wrote the artifacts, or failed to. -/
def afterArtifacts (platform : Platform) (config : Config) (n : ModuleName) :
    Except HostFailure (List Text) × Host → Except HostFailure ExitCode × Host
  | (.ok filenames, h) =>
    afterPatch platform config n
      ((h.saying (Lines.created filenames config.backend)).run
        (patch config.aggregatorPath n : HostM platform Outcome))
  | (.error (.files (.directoryExists _)), h) =>
    (.ok 1, h.saying (Lines.targetExists (config.targetDirectory n)))
  | (.error (.files (.refused cause path)), h) =>
    (.ok 1, h.saying
      (Lines.writeFailed (.refused cause path) (config.targetDirectory n)))
  | (.error e, h) => (.error e, h)

theorem run_reportRegistration (h : Host) (config : Config) (n : ModuleName) :
    h.run ((do
      reportRegistration config n
      sayAll (Lines.done n)
      return 0) : HostM platform ExitCode) =
      afterPatch platform config n
        (h.run (patch config.aggregatorPath n : HostM platform Outcome)) := by
  have hattempt := run_attempt h (patch config.aggregatorPath n : HostM platform Outcome)
  rw [reportRegistration, bind_assoc]
  rcases hpatch : h.run (patch config.aggregatorPath n : HostM platform Outcome)
    with ⟨(f | f) | outcome, h'⟩ <;> rw [hpatch] at hattempt
  · rw [run_bind_of_ok hattempt]
    cases f with
    | refused cause path =>
        refine (run_bind_of_ok (run_sayAll _ _) _).trans ?_
        exact run_bind_of_ok (run_sayAll _ _) _
    | _ => rfl
  · exact run_bind_of_error hattempt _
  · rw [run_bind_of_ok hattempt]
    rfl

/-- A run whose outcome can be shown succeeds. -/
theorem afterPatch_of_ok {outcome : Outcome} {config : Config} {n : ModuleName}
    {shown : List Text}
    (hread : (Lines.registered config n outcome).mapM (Line.read platform.styles) =
      .ok shown) :
    afterPatch platform config n (.ok outcome, h) =
      (.ok 0, (h.saying shown).saying (Lines.done n)) :=
  (run_bind_of_ok (run_sayLines hread) _).trans (run_bind_of_ok (run_sayAll _ _) _)

/-- The markup of a report may make a run fail that has done everything else. -/
theorem afterPatch_of_error {outcome : Outcome} {config : Config} {n : ModuleName}
    {f : MarkupFailure}
    (hread : (Lines.registered config n outcome).mapM (Line.read platform.styles) =
      .error f) :
    ∃ said, afterPatch platform config n (.ok outcome, h) =
      (.error (.markup f), h.saying said) := by
  obtain ⟨said, hrun, -⟩ :=
    exists_run_sayLines platform h (Lines.registered config n outcome)
  rw [hread] at hrun
  exact ⟨said, run_bind_of_error hrun _⟩

/-- Without a generation a run prints a message and ends with an exit code. -/
theorem run_runCommandLine_of_none (platform : Platform)
    (hg : generation? arguments environment h.session.here = none) :
    ∃ code lines verbose, code ∈ [0, 1, 2] ∧
      h.run (runCommandLine arguments environment : HostM platform ExitCode) =
        (.ok code, (h.withVerbose verbose).saying lines) := by
  have hquiet : (h.withVerbose h.session.verbose).saying [] = h := saying_nil h
  unfold runCommandLine
  unfold generation? at hg
  cases hinvocation : Invocation.ofArguments arguments with
  | help => exact ⟨0, [], h.session.verbose, by simp, by simp [hquiet]⟩
  | usageError => exact ⟨2, [], h.session.verbose, by simp, by simp [hquiet]⟩
  | listBackends =>
      exact ⟨0, Lines.backends, h.session.verbose, by simp,
        run_bind_of_ok (run_sayAll _ _) _⟩
  | generate o =>
      have hverbose : h.run (Reporting.setVerbose o.verbose : HostM platform Unit) =
          (.ok (), h.withVerbose o.verbose) := rfl
      simp only [hinvocation] at hg ⊢
      rw [generate, run_bind_of_ok hverbose]
      cases hname : o.name with
      | none =>
          exact ⟨1, Lines.missingName, o.verbose, by simp,
            run_bind_of_ok (run_sayAll _ _) _⟩
      | some raw =>
          cases hbackend : o.backend with
          | error orm =>
              exact ⟨2, Lines.unknownBackend orm, o.verbose, by simp,
                run_bind_of_ok (run_sayAll _ _) _⟩
          | ok backend =>
              cases hderive : ModuleName.derive raw with
              | error e =>
                  simp only [hderive]
                  exact ⟨1, Lines.invalidName e, o.verbose, by simp,
                    run_bind_of_ok (run_sayAll _ _) _⟩
              | ok n => simp [hname, hbackend, hderive] at hg

theorem looked_withVerbose (h : Host) (verbose : Bool) (path : Path) :
    (h.withVerbose verbose).looked platform path = h.looked platform path := by
  unfold looked
  simp only [Session.run_find]
  rfl

/-- The steps of a generation. -/
theorem run_generation (hg : generation? arguments environment h.session.here = some g) :
    h.run (runCommandLine arguments environment : HostM platform ExitCode) =
      match h.run (FileAccess.isThere g.target : HostM platform Bool) with
      | (.error e, h') => (.error e, h'.withVerbose g.verbose)
      | (.ok true, h') =>
        (.ok 1, (h'.withVerbose g.verbose).saying (Lines.targetExists g.target))
      | (.ok false, _) =>
        afterArtifacts platform g.config g.name
          ((h.beginning g).run (materialize g.target g.artifacts : HostM platform _)) := by
  obtain ⟨config, hconfig, hrun⟩ := exists_config_of_generation? (m := HostM platform) hg
  have hverbose : h.run (Reporting.setVerbose g.verbose : HostM platform Unit) =
      (.ok (), h.withVerbose g.verbose) := rfl
  have hcurrent : (h.withVerbose g.verbose).run (FileAccess.currentDirectory :
      HostM platform Path) = (.ok ⟨.root, h.session.here⟩, h.withVerbose g.verbose) := rfl
  have hlook := run_isThere platform (h.withVerbose g.verbose)
    (g.config.targetDirectory g.name)
  rw [looked_withVerbose] at hlook
  have htarget : g.config.targetDirectory g.name = g.target := rfl
  rw [hrun, run_bind_of_ok hverbose, run_bind_of_ok hcurrent, hconfig, generateModule,
    run_isThere, htarget]
  rw [htarget] at hlook
  rcases hlooked : (h.looked platform g.target).map Option.isSome with e | _ | _
  all_goals rw [hlooked] at hlook
  · exact run_bind_of_error hlook _
  · refine (run_bind_of_ok hlook _).trans ?_
    refine (run_bind_of_ok (run_note _ _) _).trans ?_
    refine (run_bind_of_ok (run_sayAll _ _) _).trans ?_
    have hattempt := run_attempt (h.beginning g)
      (materialize g.target g.artifacts : HostM platform _)
    rcases hartifacts : (h.beginning g).run (materialize g.target g.artifacts :
      HostM platform _) with ⟨(f | f) | filenames, h'⟩ <;> rw [hartifacts] at hattempt
    · refine (run_bind_of_ok hattempt _).trans ?_
      cases f with
      | refused cause path => exact run_bind_of_ok (run_sayAll _ _) _
      | directoryExists path => exact run_bind_of_ok (run_sayAll _ _) _
      | _ => rfl
    · exact run_bind_of_error hattempt _
    · refine (run_bind_of_ok hattempt _).trans ?_
      refine (run_bind_of_ok (run_sayAll _ _) _).trans ?_
      exact run_reportRegistration _ _ _
  · refine (run_bind_of_ok hlook _).trans ?_
    exact run_bind_of_ok (run_sayAll _ _) _

section Plain

/-- A line is printed on a host as in a session if its markup changes nothing. -/
theorem mirrors_say {line : Line} (hread : line.read platform.styles = .ok line.text) :
    Mirrors (Reporting.say line : HostM platform Unit) (Reporting.say line) := by
  intro h
  rw [run_say, hread, Session.run_say]
  exact ⟨rfl, rfl⟩

theorem mirrors_sayAll (lines : List Text) :
    Mirrors (sayAll lines : HostM platform Unit) (sayAll lines) := by
  refine mirrors_forM fun line hline => mirrors_say ?_
  obtain ⟨t, -, rfl⟩ := List.mem_map.1 hline
  rfl

theorem Mirrors.attempt {x : HostM platform α} {y : SessionM α} (hxy : Mirrors x y) :
    Mirrors (attempt x) (attempt y) :=
  (hxy.map _).tryCatch fun _ => mirrors_pure _

variable (hplain : platform.IsPlain)
include hplain

theorem mirrors_reportRegistration {config : Config} (n : ModuleName)
    (hread : platform.styles.read config.aggregator = .ok config.aggregator) :
    Mirrors (reportRegistration config n : HostM platform Unit)
      (reportRegistration config n) := by
  refine (mirrors_patch hplain _ _).attempt.bind fun r => ?_
  rcases r with (cause | _ | _ | _) | outcome
  · exact mirrors_sayAll _
  · exact mirrors_throw _
  · exact mirrors_throw _
  · exact mirrors_throw _
  · refine mirrors_forM fun line hline => mirrors_say ?_
    cases outcome <;>
      simp only [Lines.registered, List.mem_cons, List.not_mem_nil, or_false] at hline <;>
      rcases hline with rfl | rfl | rfl <;> simp [Line.read, Line.text, hread, Except.map]

theorem mirrors_generateModule {config : Config} (n : ModuleName)
    (hread : platform.styles.read config.aggregator = .ok config.aggregator) :
    Mirrors (generateModule config n : HostM platform ExitCode)
      (generateModule config n) := by
  refine (mirrors_isThere hplain _).bind fun there => ?_
  cases there with
  | true => exact (mirrors_sayAll _).bind fun _ => mirrors_pure _
  | false =>
      refine (mirrors_lift _).bind fun _ => (mirrors_sayAll _).bind fun _ => ?_
      refine (mirrors_materialize hplain _ _).attempt.bind fun r => ?_
      rcases r with (cause | _ | _ | _) | filenames
      · exact (mirrors_sayAll _).bind fun _ => mirrors_pure _
      · exact mirrors_throw _
      · exact mirrors_throw _
      · exact (mirrors_sayAll _).bind fun _ => mirrors_pure _
      · exact (mirrors_sayAll _).bind fun _ =>
          (mirrors_reportRegistration hplain n hread).bind fun _ =>
            (mirrors_sayAll _).bind fun _ => mirrors_pure _

/-- A run on a host that refuses nothing is the run in its session, if the option for the
root module holds no markup. -/
theorem mirrors_runCommandLine
    (hread : ∀ here g, generation? arguments environment here = some g →
      platform.styles.read g.config.aggregator = .ok g.config.aggregator) :
    Mirrors (runCommandLine arguments environment : HostM platform ExitCode)
      (runCommandLine arguments environment) := by
  unfold runCommandLine
  unfold generation? at hread
  cases hinvocation : Invocation.ofArguments arguments with
  | help => exact mirrors_pure _
  | usageError => exact mirrors_pure _
  | listBackends => exact (mirrors_sayAll _).bind fun _ => mirrors_pure _
  | generate o =>
      simp only [hinvocation] at hread
      refine (mirrors_lift _).bind fun _ => ?_
      cases hname : o.name with
      | none => exact (mirrors_sayAll _).bind fun _ => mirrors_pure _
      | some raw =>
          cases hbackend : o.backend with
          | error orm => exact (mirrors_sayAll _).bind fun _ => mirrors_pure _
          | ok backend =>
              cases hderive : ModuleName.derive raw with
              | error e =>
                  simp only [hderive]
                  exact (mirrors_sayAll _).bind fun _ => mirrors_pure _
              | ok n =>
                  simp only [hname, hbackend, hderive, Option.some.injEq] at hread ⊢
                  refine (mirrors_lift _).bind fun currentDirectory => ?_
                  -- the current directory has no part in the option
                  exact mirrors_generateModule hplain n (hread [] _ rfl)

end Plain

end Host

end ModuleScaffold
