import ClassMold.Generation
import ClassMold.Proofs.Files.Growth
import ClassMold.Proofs.Text.Printable

/-! How a source file comes into its place. It is staged under a name that nothing in the
tree bears, so whichever step fails, taking the staging file away gives back the very
tree from before; and if all succeed, the only trace is the file in its place. -/
namespace ClassMold.Staging
open ClassMold.Path Paths Growth

variable {tree before after : FileTree} {place other : List Text} {path staging target content : Text}
  {bytes : Bytes} {homes : Homes} {mark : Text}

/-! ### Single steps -/

theorem write_ok_iff : tree.write path bytes = .ok after ↔ ∃ place, tree.place path = .ok place ∧
    tree.entry? place ≠ some .directory ∧ after = tree.insert place (.file bytes) := by
  unfold FileTree.write
  cases tree.place path with
  | error e => simp [bind, Except.bind]
  | ok place =>
    simp only [bind, Except.bind, Except.ok.injEq, exists_eq_left']
    split
    · rename_i directory
      simp [directory]
    · rename_i otherwise
      have free : tree.entry? place ≠ some .directory := otherwise
      simpa [free] using eq_comm

theorem move_ok_iff {source : Text} : tree.move source target = .ok after ↔ ∃ old new entry,
    tree.place source = .ok old ∧ tree.place target = .ok new ∧ tree.entry? old = some entry ∧
      tree.entry? new ≠ some .directory ∧ after = (tree.erase old).insert new entry := by
  unfold FileTree.move
  cases tree.place source with
  | error e => simp [bind, Except.bind]
  | ok old =>
    cases tree.place target with
    | error e => simp [bind, Except.bind]
    | ok new =>
      cases held : tree.entry? old with
      | none => simp [bind, Except.bind, held]
      | some entry =>
        by_cases directory : tree.entry? new = some .directory
        · simp [bind, Except.bind, held, directory]
        · simpa [bind, Except.bind, held, directory] using eq_comm

theorem attempt_ok {step : FileTree → Except FileError FileTree} (succeeds : step tree = .ok after) :
    (FileTree.attempt step).run tree = (.ok (), after) := by
  change FileTree.attempt step tree = _
  simp [FileTree.attempt, succeeds]

theorem attempt_error {step : FileTree → Except FileError FileTree} {error : FileError}
    (fails : step tree = .error error) : (FileTree.attempt step).run tree = (.error error, tree) := by
  change FileTree.attempt step tree = _
  simp [FileTree.attempt, fails]

/-! ### The staging file -/

/-- A file takes no directory away, unless it stands in its place. -/
theorem file_keeps (free : tree.entry? place ≠ some .directory) (bytes : Bytes) :
    KeepsDirectories tree (tree.insert place (.file bytes)) := by
  intro led held
  rw [entry_insert (no_directory_inside free), if_neg, held]
  rintro rfl
  exact free held

/-- A file at a vacant place does not change where paths lead. -/
theorem vacant_place (vacant : tree.entry? place = none) {led : List Text} :
    (tree.insert place (.file bytes)).place path = .ok led ↔ tree.place path = .ok led := by
  have free : tree.entry? place ≠ some .directory := by simp [vacant]
  have back : KeepsDirectories (tree.insert place (.file bytes)) tree := by
    intro led held
    rw [entry_insert (no_directory_inside free)] at held
    split at held
    · cases held
    · exact held
  exact ⟨place_kept back rfl, place_kept (file_keeps free bytes) rfl⟩

/-- Taking the staging file away gives the tree back. -/
theorem remove_staged (leads : tree.place staging = .ok place) (vacant : tree.entry? place = none) :
    ((FileTree.host homes mark).remove staging).run (tree.insert place (.file bytes)) = ((), tree) := by
  have led : (tree.insert place (.file bytes)).place staging = .ok place :=
    (vacant_place vacant).mpr leads
  have removed : (tree.insert place (.file bytes)).remove staging = tree := by
    simp only [FileTree.remove, led]
    exact erase_insert vacant _
  change ((), (tree.insert place (.file bytes)).remove staging) = _
  rw [removed]

/-- What comes of a text that is put in place by way of a vacant place. Only moving it there
can still go wrong once it is known to have bytes. -/
theorem replace_file_vacant (leads : tree.place staging = .ok place) (vacant : tree.entry? place = none) :
    (replaceFile (FileTree.host homes mark) staging target content).run tree =
      match Utf8.encode content with
      | .error e => (.error (.unencodable e), tree)
      | .ok bytes =>
        match (tree.insert place (.file bytes)).move staging target with
        | .error e => (.error (.unwritable e), tree)
        | .ok after => (.ok (), after) := by
  have empty : tree.write staging [] = .ok (tree.insert place (.file [])) :=
    write_ok_iff.mpr ⟨place, leads, by simp [vacant], rfl⟩
  unfold replaceFile
  refine (run_bind_of (attempt_ok empty)).trans ?_
  cases encoded : Utf8.encode content with
  | error e => exact (run_bind_of (remove_staged leads vacant)).trans rfl
  | ok bytes =>
    have inside := vacant_inside vacant
    have filled : (tree.insert place (.file [])).write staging bytes =
        .ok (tree.insert place (.file bytes)) :=
      write_ok_iff.mpr ⟨place, (vacant_place vacant).mpr leads, by simp [entry_insert inside],
        (insert_insert _ _).symm⟩
    refine (run_bind_of (attempt_ok filled)).trans ?_
    cases moved : (tree.insert place (.file bytes)).move staging target with
    | error e =>
      simp only [moved]
      refine (run_bind_of (attempt_error moved)).trans ?_
      exact (run_bind_of (remove_staged leads vacant)).trans rfl
    | ok after =>
      simp only [moved]
      exact (run_bind_of (attempt_ok moved)).trans rfl

theorem move_staged (leads : tree.place staging = .ok place) (vacant : tree.entry? place = none) :
    (tree.insert place (.file bytes)).move staging target = .ok after ↔ ∃ new,
      tree.place target = .ok new ∧ FileTree.entry? (tree.insert place (.file bytes)) new ≠ some .directory ∧
        after = tree.insert new (.file bytes) := by
  have inside := vacant_inside vacant
  have held : FileTree.entry? (tree.insert place (.file bytes)) place = some (.file bytes) := by
    simp [entry_insert inside]
  rw [move_ok_iff]
  simp only [vacant_place vacant, leads, Except.ok.injEq]
  constructor
  · rintro ⟨old, new, entry, rfl, goes, found, free, rfl⟩
    cases held.symm.trans found
    exact ⟨new, goes, free, by rw [erase_insert vacant]⟩
  · rintro ⟨new, goes, free, rfl⟩
    exact ⟨place, new, _, rfl, goes, held, free, by rw [erase_insert vacant]⟩

/-- Where no file stands and yet nothing is free, nothing can be written. -/
theorem write_refused
    (noFile : ∀ place content, tree.place path = .ok place → tree.entry? place ≠ some (.file content))
    (taken : ¬ ∃ place, tree.place path = .ok place ∧ tree.entry? place = none) (bytes : Bytes) :
    ∃ e, tree.write path bytes = .error e := by
  cases written : tree.write path bytes with
  | error e => exact ⟨e, rfl⟩
  | ok made =>
    obtain ⟨place, leads, other, -⟩ := write_ok_iff.mp written
    refine absurd ⟨place, leads, ?_⟩ taken
    cases held : tree.entry? place with
    | none => rfl
    | some entry =>
      cases entry with
      | directory => exact absurd held other
      | file content => exact absurd held (noFile place content leads)

/-- A text is put in place as a whole, or the tree stays as it is. -/
theorem replace_file_run {result : Except SourceFileError Unit}
    (noFile : ∀ place content, tree.place staging = .ok place → tree.entry? place ≠ some (.file content))
    (ran : (replaceFile (FileTree.host homes mark) staging target content).run tree = (result, after)) :
    (∃ e, result = .error e ∧ after = tree) ∨
      (result = .ok () ∧ ∃ place bytes, tree.place target = .ok place ∧
        tree.entry? place ≠ some .directory ∧ Utf8.encode content = .ok bytes ∧
          after = tree.insert place (.file bytes)) := by
  -- Where the staging file cannot be made, the first write is refused, so nothing has changed yet.
  by_cases staged : ∃ place, tree.place staging = .ok place ∧ tree.entry? place = none
  · obtain ⟨place, leads, vacant⟩ := staged
    rw [replace_file_vacant leads vacant] at ran
    split at ran
    · cases ran
      exact .inl ⟨_, rfl, rfl⟩
    · rename_i bytes encoded
      split at ran
      · cases ran
        exact .inl ⟨_, rfl, rfl⟩
      · rename_i moved
        cases ran
        obtain ⟨new, goes, free, rfl⟩ := (move_staged leads vacant).mp moved
        have clear : tree.entry? place ≠ some .directory := by simp [vacant]
        have keeps := file_keeps clear bytes
        exact .inr ⟨rfl, new, bytes, goes, fun held => free (keeps new held), encoded, rfl⟩
  · obtain ⟨e, fails⟩ := write_refused noFile staged []
    unfold replaceFile at ran
    obtain ⟨first, middle, wrote, rest⟩ := run_bind_iff.mp ran
    rw [show (FileTree.host homes mark).write staging [] = FileTree.attempt (·.write staging []) from rfl,
      attempt_error fails] at wrote
    cases wrote
    cases rest
    exact .inl ⟨_, rfl, rfl⟩

/-! ### Names that nothing bears -/

/-- A code point that can stand in the name of a file. -/
def IsNameable (c : CodePoint) : Prop :=
  c ≠ separator ∧ c ≠ .scalar '\x00' ∧ Utf8.isSurrogate c = false

instance : DecidablePred IsNameable := fun _ => inferInstanceAs (Decidable (_ ∧ _))

/-- A mark that can stand in a name and that no name in a tree ends with. -/
structure Fresh (mark : Text) (tree : FileTree) : Prop where
  nameable : ∀ c ∈ mark, IsNameable c
  unused : ∀ entry ∈ tree.entries, ∀ last ∈ entry.1.getLast?, ¬ mark <:+ last

/-- The name of the staging file for a file. -/
def stagingName (mark name : Text) : Text := ".tmp-" ++ name ++ "-" ++ mark

variable {className name : Text} {directory p : Path}

theorem staging_path_inside (mark : Text) (directory : Path) (name : Text) :
    stagingPath mark (inside directory name) = inside directory (stagingName mark name) := by
  simp [stagingPath, inside, sibling, fileName, stagingName]

theorem class_name_nameable (legal : className.isIdentifier = true) : ∀ c ∈ className, IsNameable c := by
  intro c listed
  have part := Alphabet.identifier_word legal c listed
  refine ⟨?_, ?_, Printable.identifier_printable legal c listed⟩
  · rintro rfl
    exact absurd part (by decide)
  · rintro rfl
    exact absurd part (by decide)

theorem source_name_nameable (legal : className.isIdentifier = true) :
    ∀ c ∈ sourceName className, IsNameable c := by
  have ending : ∀ c ∈ Text.ofString ".java", IsNameable c := by decide
  exact List.forall_mem_append.mpr ⟨class_name_nameable legal, ending⟩

theorem staging_name_nameable (legal : className.isIdentifier = true) (fresh : Fresh mark tree) :
    ∀ c ∈ stagingName mark (sourceName className), IsNameable c := by
  have start : ∀ c ∈ Text.ofString ".tmp-", IsNameable c := by decide
  have hyphen : ∀ c ∈ Text.ofString "-", IsNameable c := by decide
  simp only [stagingName, List.forall_mem_append]
  exact ⟨⟨⟨start, source_name_nameable legal⟩, hyphen⟩, fresh.nameable⟩

/-- A name that is long enough is a step of a path, and none that leads upward. -/
theorem long_name_step (nameable : ∀ c ∈ name, IsNameable c) (long : 2 < name.length) :
    IsStep name ∧ name ≠ ".." := by
  refine ⟨⟨?_, ?_, fun listed => (nameable _ listed).1 rfl⟩, ?_⟩
  · rintro rfl
    exact absurd long (by decide)
  · rintro rfl
    exact absurd long (by decide)
  · rintro rfl
    exact absurd long (by decide)

theorem source_name_long (className : Text) : 2 < (sourceName className).length := by
  simp only [sourceName, Text.ofString, List.length_append, List.length_map]
  have suffix : ".java".toList.length = 5 := rfl
  omega

theorem staging_name_longer (mark name : Text) : name.length < (stagingName mark name).length := by
  simp only [stagingName, Text.ofString, List.length_append, List.length_map]
  have start : ".tmp-".toList.length = 5 := rfl
  omega

/-- A path into a directory leads to a place of the same name. -/
theorem place_inside (normal : IsNormal directory) (nameable : ∀ c ∈ name, IsNameable c)
    (long : 2 < name.length) (leads : tree.place (inside directory name).toText = .ok place) :
    ∃ above, place = above ++ [name] := by
  obtain ⟨step, other⟩ := long_name_step nameable long
  have same : canonicalName name = name := by
    have none : name.any Utf8.isSurrogate = false :=
      List.any_eq_false.mpr fun c listed => by simp [(nameable c listed).2.2]
    simp [canonicalName, none]
  have named : ∀ above led, FileTree.next above name = .ok led → led = above ++ [name] := by
    intro above led goes
    unfold FileTree.next at goes
    rw [if_neg other, same] at goes
    split at goes
    · cases goes
    · exact (Except.ok.inj goes).symm
  obtain ⟨-, -, follows⟩ := (place_normal_iff (inside_normal normal step)).mp leads
  by_cases alone : directory.steps = []
  · simp only [inside, alone, List.nil_append, FileTree.follow] at follows
    exact ⟨_, named _ _ follows⟩
  · obtain ⟨above, -, -, goes⟩ := (follow_step alone).mp follows
    exact ⟨above, named _ _ goes⟩

theorem entry_listed (held : tree.entry? place = some entry) (inside : place ≠ []) :
    (place, entry) ∈ tree.entries := by
  unfold FileTree.entry? at held
  rw [if_neg inside] at held
  obtain ⟨⟨found, _⟩, search, rfl⟩ := Option.map_eq_some_iff.mp held
  obtain rfl : found = place := by simpa using List.find?_some search
  exact List.mem_of_find?_eq_some search

/-- Nothing stands where a staging file goes, but for directories made since. -/
theorem staging_free (normal : IsNormal directory) (legal : className.isIdentifier = true)
    (fresh : Fresh mark before)
    (leads : after.place (inside directory (stagingName mark (sourceName className))).toText = .ok place) :
    before.entry? place = none := by
  have long : 2 < (stagingName mark (sourceName className)).length :=
    Nat.lt_trans (source_name_long className) (staging_name_longer mark _)
  obtain ⟨above, rfl⟩ := place_inside normal (staging_name_nameable legal fresh) long leads
  cases held : before.entry? (above ++ [stagingName mark (sourceName className)]) with
  | none => rfl
  | some entry =>
    have ending : mark <:+ stagingName mark (sourceName className) := List.suffix_append _ _
    exact absurd ending (fresh.unused _ (entry_listed held (by simp)) _ (by simp))

/-! ### Source files -/

/-- No file is made, changed or removed. -/
def SameFiles (before after : FileTree) : Prop :=
  ∀ place content, after.entry? place = some (.file content) ↔ before.entry? place = some (.file content)

/-- Some bytes are in place: they stand where the target leads, and apart from that place only
directories on the way there are new. -/
structure Placed (target : Path) (bytes : Bytes) (place : List Text) (before after : FileTree) : Prop where
  leads : after.place target.toText = .ok place
  held : after.entry? place = some (.file bytes)
  others : ∀ other, other ≠ place → after.entry? other = before.entry? other ∨
    before.entry? other = none ∧ after.entry? other = some .directory ∧ OnTheWay target.parent after other

theorem placed_after_growth {target : Path} {middle : FileTree} (grown : Grown target.parent before middle)
    (leads : middle.place target.toText = .ok place) (free : middle.entry? place ≠ some .directory) :
    Placed target bytes place before (middle.insert place (.file bytes)) where
  leads := place_kept (file_keeps free bytes) rfl leads
  held := by simp [entry_insert (no_directory_inside free)]
  others other apart := by
    rw [entry_insert (no_directory_inside free), if_neg apart]
    cases held : middle.entry? other with
    | none =>
      refine .inl ?_
      cases old : before.entry? other with
      | none => rfl
      | some entry => cases (grown.kept other entry old).symm.trans held
    | some entry =>
      rcases grown.added other entry held with old | ⟨vacant, rfl, part, within, led⟩
      · exact .inl old.symm
      · exact .inr ⟨vacant, rfl, part, within, place_kept (file_keeps free bytes) rfl led⟩

end ClassMold.Staging
