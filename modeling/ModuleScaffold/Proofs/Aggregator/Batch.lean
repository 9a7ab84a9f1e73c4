import ModuleScaffold.Proofs.Aggregator.Extended
import ModuleScaffold.Proofs.Aggregator.Registered

/-!
# A run of registrations

Registering modules one behind the other is one insertion: the import lines that
the text lacked stand on top, the last one first, and the classes that the list
lacked follow its last entry, the last one last.  Each registration reads a text
that the earlier ones wrote, so the run rests on what they leave alone: the place
of the list, the newline style, the indentation, and every import line and every
class but their own.
-/

namespace ModuleScaffold

open Text

/-- The text behind a run of registrations.  A name that is refused is passed
over. -/
def registerAll (raws : List Text) (t : Text) : Text :=
  raws.foldl
    (fun t raw =>
      match ModuleName.derive raw with
      | .ok n => (register n t).content
      | .error _ => t)
    t

theorem registerAll_concat (raws : List Text) (raw t : Text) :
    registerAll (raws ++ [raw]) t =
      match ModuleName.derive raw with
      | .ok n => (register n (registerAll raws t)).content
      | .error _ => registerAll raws t := by
  simp only [registerAll, List.foldl_append, List.foldl_cons, List.foldl_nil]

/-- The modules of a run, each where it comes first. -/
def acceptedNames (raws : List Text) : List ModuleName :=
  (raws.filterMap fun raw => (ModuleName.derive raw).toOption).eraseDups

/-- The import lines that a text lacks, the last one on top. -/
def newImports (t : Text) (names : List ModuleName) : Text :=
  (names.filter fun n => !t.hasLine n.importLine).reverse.flatMap fun n =>
    n.importLine ++ t.newline.text

theorem eraseDups_concat {α : Type} [DecidableEq α] (xs : List α) (x : α) :
    (xs ++ [x]).eraseDups =
      if x ∈ xs then xs.eraseDups else xs.eraseDups ++ [x] := by
  rw [List.eraseDups_append]
  split
  next h => simp [List.removeAll, h]
  next h => simp [List.removeAll, h, List.eraseDups_cons]

theorem acceptedNames_concat (raws : List Text) (raw : Text) :
    acceptedNames (raws ++ [raw]) =
      match ModuleName.derive raw with
      | .ok n =>
        if n ∈ acceptedNames raws then acceptedNames raws
        else acceptedNames raws ++ [n]
      | .error _ => acceptedNames raws := by
  unfold acceptedNames
  rw [List.filterMap_append]
  cases hn : ModuleName.derive raw with
  | error e => simp [hn, Except.toOption]
  | ok n =>
      have hlast : [raw].filterMap (fun raw => (ModuleName.derive raw).toOption) =
          [n] := by
        simp [hn, Except.toOption]
      simp only [hlast, eraseDups_concat, List.mem_eraseDups]

theorem exists_of_mem_acceptedNames {raws : List Text} {n : ModuleName}
    (h : n ∈ acceptedNames raws) :
    ∃ raw ∈ raws, ModuleName.derive raw = .ok n := by
  rw [acceptedNames, List.mem_eraseDups, List.mem_filterMap] at h
  obtain ⟨raw, hmem, hraw⟩ := h
  refine ⟨raw, hmem, ?_⟩
  cases hn : ModuleName.derive raw with
  | error e => simp [hn, Except.toOption] at hraw
  | ok n' => simpa [hn, Except.toOption] using hraw

@[simp] theorem newImports_nil (t : Text) : newImports t [] = [] := rfl

theorem newImports_concat (t : Text) (names : List ModuleName) (n : ModuleName) :
    newImports t (names ++ [n]) =
      if t.hasLine n.importLine then newImports t names
      else n.importLine ++ t.newline.text ++ newImports t names := by
  unfold newImports
  split
  next h => simp [List.filter_append, h]
  next h => simp [List.filter_append, h]

theorem indentation_newImports_append (t : Text) (names : List ModuleName)
    (rest : Text) : indentation (newImports t names ++ rest) = indentation rest := by
  induction names using List.reverseRecOn with
  | nil => rfl
  | append_singleton names n ih =>
      rw [newImports_concat]
      split
      · exact ih
      · rw [List.append_assoc, indentation_newline_append, ih]

attribute [ext] ImportsList

namespace ImportsList

/-- The classes that the list lacks. -/
def newClasses (l : ImportsList) (names : List ModuleName) : List Text :=
  (names.map ModuleName.moduleClass).filter fun c => !l.body.hasWord c

/-- The list with a run of modules in it. -/
def batch (l : ImportsList) (names : List ModuleName) : ImportsList :=
  { l with
    before := newImports l.toText names ++ l.before
    body := l.extendedBody (l.newClasses names) }

/-- A module whose import line does not stand in the body of the list. -/
def Admits (l : ImportsList) (n : ModuleName) : Prop :=
  (∃ raw, ModuleName.derive raw = .ok n) ∧ l.body.hasLine n.importLine = false

theorem newClasses_concat (l : ImportsList) (names : List ModuleName)
    (n : ModuleName) :
    l.newClasses (names ++ [n]) =
      if l.body.hasWord n.moduleClass then l.newClasses names
      else l.newClasses names ++ [n.moduleClass] := by
  unfold newClasses
  split
  next h => simp [List.filter_append, h]
  next h => simp [List.filter_append, h]

theorem isWord_of_mem_newClasses {l : ImportsList} {names : List ModuleName}
    (hnames : ∀ n ∈ names, l.Admits n) : ∀ c ∈ l.newClasses names, IsWord c := by
  intro c hmem
  obtain ⟨n, hmem', rfl⟩ := List.mem_map.1 (List.mem_of_mem_filter hmem)
  obtain ⟨⟨raw, hn⟩, -⟩ := hnames n hmem'
  exact ModuleName.isWord_moduleClass hn

@[simp] theorem batch_nil (l : ImportsList) : l.batch [] = l := rfl

/-- What a registration finds behind the registrations of `names`. -/
structure BatchInvariant (l : ImportsList) (names : List ModuleName) : Prop where
  readable : (l.batch names).Readable
  newline : (l.batch names).toText.newline = l.toText.newline
  hasLine_body : ∀ n, l.Admits n →
    (l.batch names).body.hasLine n.importLine = false
  hasLine_iff : ∀ n, l.Admits n →
    ((l.batch names).toText.hasLine n.importLine = true ↔
      l.toText.hasLine n.importLine = true ∨ n ∈ names)
  hasWord_iff : ∀ n, l.Admits n →
    ((l.batch names).body.hasWord n.moduleClass = true ↔
      l.body.hasWord n.moduleClass = true ∨ n ∈ names)

theorem BatchInvariant.nil {l : ImportsList} (h : l.Readable) :
    l.BatchInvariant [] where
  readable := h
  newline := rfl
  hasLine_body := fun n hn => hn.2
  hasLine_iff := fun n _ => by simp
  hasWord_iff := fun n _ => by simp

section Step

variable {l : ImportsList} {names : List ModuleName} {n : ModuleName}

theorem registered_batch_of_mem (h : l.BatchInvariant names) (hn : l.Admits n)
    (hmem : n ∈ names) : (l.batch names).registered n = l.batch names := by
  have hword := (h.hasWord_iff n hn).2 (Or.inr hmem)
  have hline := (h.hasLine_iff n hn).2 (Or.inr hmem)
  rw [registered, if_pos hword, imported, if_pos hline]

theorem before_imported_batch (h : l.BatchInvariant names) (hn : l.Admits n)
    (hnew : n ∉ names) :
    ((l.batch names).imported n).before = (l.batch (names ++ [n])).before := by
  have hline : (l.batch names).toText.hasLine n.importLine =
      l.toText.hasLine n.importLine := by
    rw [Bool.eq_iff_iff, h.hasLine_iff n hn, or_iff_left hnew]
  rw [imported, hline, h.newline]
  simp only [batch, newImports_concat]
  split
  · rfl
  · simp

/-- A registration behind a batch is a batch of one more. -/
theorem registered_batch (h : l.BatchInvariant names)
    (hnames : ∀ n ∈ names, l.Admits n) (hn : l.Admits n) (hnew : n ∉ names) :
    (l.batch names).registered n = l.batch (names ++ [n]) := by
  have hbefore := before_imported_batch h hn hnew
  have hword : (l.batch names).body.hasWord n.moduleClass =
      l.body.hasWord n.moduleClass := by
    rw [Bool.eq_iff_iff, h.hasWord_iff n hn, or_iff_left hnew]
  have hbody : ((l.batch names).imported n).body =
      l.extendedBody (l.newClasses names) := body_imported _ n
  rw [registered, hword]
  split
  next hclass =>
    refine ImportsList.ext hbefore (opening_imported _ n) ?_ (after_imported _ n)
    rw [hbody, batch, newClasses_concat, if_pos hclass]
  next hclass =>
    refine ImportsList.ext hbefore (opening_imported _ n) ?_ (after_imported _ n)
    obtain ⟨⟨raw, hderive⟩, -⟩ := hn
    have hnewline : ((l.batch names).imported n).toText.newline =
        l.toText.newline := by
      rw [newline_imported hderive, h.newline]
    have hindent : ((l.batch names).imported n).before.indentation =
        l.before.indentation := by
      rw [indentation_imported, batch, indentation_newImports_append]
    rw [append_body_of_extendedBody (isWord_of_mem_newClasses hnames) hnewline
      hindent hbody, batch, newClasses_concat, if_neg hclass]

/-- What a registration finds is kept by the next one. -/
theorem BatchInvariant.concat (h : l.BatchInvariant names)
    (hmark : ¬ "*//".toList <:+: l.body) (hnames : ∀ n ∈ names, l.Admits n)
    (hn : l.Admits n) (hnew : n ∉ names) : l.BatchInvariant (names ++ [n]) := by
  have hstep := registered_batch h hnames hn hnew
  obtain ⟨⟨raw, hderive⟩, -⟩ := hn
  have hwhole : ∀ depth rest, ¬ (l.batch names).TearsComment depth rest :=
    not_tearsComment_of_extendedBody hmark (isWord_of_mem_newClasses hnames) rfl
  have hmem : ∀ m, m ∈ names ++ [n] ↔ m ∈ names ∨ n = m := by
    intro m
    rw [List.mem_append, List.mem_singleton, eq_comm]
  constructor
  · rw [← hstep]
    exact h.readable.registered hderive fun _ => hwhole
  · rw [← hstep, newline_registered hderive h.readable, h.newline]
  · intro m hm
    obtain ⟨⟨raw', hderive'⟩, -⟩ := id hm
    rw [← hstep]
    exact hasLine_body_registered hderive hderive' (h.hasLine_body m hm)
  · intro m hm
    obtain ⟨⟨raw', hderive'⟩, -⟩ := id hm
    rw [← hstep, hasLine_registered_iff hderive hderive' h.readable
      (h.hasLine_body m hm), h.hasLine_iff m hm, hmem, or_assoc]
  · intro m hm
    obtain ⟨⟨raw', hderive'⟩, -⟩ := id hm
    have hsame : n.moduleClass = m.moduleClass ↔ n = m :=
      ⟨ModuleName.eq_of_moduleClass_eq hderive hderive', fun heq => by rw [heq]⟩
    rw [← hstep, hasWord_registered hderive (ModuleName.isWord_moduleClass hderive'),
      h.hasWord_iff m hm, hsame, hmem, or_assoc]

end Step

/-- A run of registrations writes the batch of the names it accepts. -/
theorem registerAll_toText {l : ImportsList} (h : l.Readable)
    (hmark : ¬ "*//".toList <:+: l.body) (raws : List Text)
    (hlines : ∀ raw ∈ raws, ∀ n, ModuleName.derive raw = .ok n →
      l.body.hasLine n.importLine = false) :
    registerAll raws l.toText = (l.batch (acceptedNames raws)).toText ∧
      l.BatchInvariant (acceptedNames raws) := by
  induction raws using List.reverseRecOn with
  | nil => exact ⟨rfl, .nil h⟩
  | append_singleton raws raw ih =>
      obtain ⟨htext, hinv⟩ :=
        ih fun raw' hmem => hlines raw' (List.mem_append_left _ hmem)
      have hnames : ∀ n ∈ acceptedNames raws, l.Admits n := by
        intro n hmem
        obtain ⟨raw', hmem', hn⟩ := exists_of_mem_acceptedNames hmem
        exact ⟨⟨raw', hn⟩, hlines raw' (List.mem_append_left _ hmem') n hn⟩
      rw [registerAll_concat, htext, acceptedNames_concat]
      cases hn : ModuleName.derive raw with
      | error e => exact ⟨rfl, hinv⟩
      | ok n =>
          have hadmits : l.Admits n := ⟨⟨raw, hn⟩, hlines raw (by simp) n hn⟩
          have hcontent := (register_of_find?_some hn hinv.readable.find?).1
          simp only [hcontent]
          split
          next hmem =>
            rw [registered_batch_of_mem hinv hadmits hmem]
            exact ⟨rfl, hinv⟩
          next hmem =>
            rw [registered_batch hinv hnames hadmits hmem]
            exact ⟨rfl, hinv.concat hmark hnames hadmits hmem⟩

theorem take_bodyStart (l : ImportsList) :
    l.toText.take l.bodyStart = l.before ++ l.opening := by
  rw [toText, bodyStart, openingStart, List.append_assoc, ← List.length_append,
    List.take_left]

theorem drop_bodyEnd (l : ImportsList) : l.toText.drop l.bodyEnd = l.after := by
  rw [toText, bodyEnd, bodyStart, openingStart, ← List.length_append,
    ← List.length_append, List.drop_left]

end ImportsList

open ImportsList

/-- A run of registrations is one insertion: import lines on top, and entries at
the end of the list. -/
theorem registerAll_eq {t : Text} {l : ImportsList} (h : find? t = some l)
    (hmark : ¬ "*//".toList <:+: l.body) (raws : List Text)
    (hlines : ∀ raw ∈ raws, ∀ n, ModuleName.derive raw = .ok n →
      l.body.hasLine n.importLine = false) :
    registerAll raws t =
      newImports t (acceptedNames raws) ++ t.take l.bodyStart ++
        l.extendedBody (l.newClasses (acceptedNames raws)) ++ t.drop l.bodyEnd := by
  obtain rfl := toText_of_find? h
  rw [(registerAll_toText (.of_find? h) hmark raws hlines).1, take_bodyStart,
    drop_bodyEnd, toText]
  simp [batch]

theorem registerAll_users_media :
    registerAll ["users", "1x", "users", "media"] "imports: [A]" =
      ("import \x7b MediaModule \x7d from './media/media.module';\n" ++
        "import \x7b UsersModule \x7d from './users/users.module';\n" ++
        "imports: [A,\n  UsersModule,\n  MediaModule,\n]" : Text) := by
  have hfind : find? "imports: [A]" = some ⟨"", "imports: [", "A", "]"⟩ := by rfl
  refine (registerAll_eq hfind (by decide +kernel) _ ?_).trans (by decide +kernel)
  intro raw _ n _
  exact hasLine_eq_false_of_not_mem n.brace_mem_importLine (by decide +kernel)

end ModuleScaffold
