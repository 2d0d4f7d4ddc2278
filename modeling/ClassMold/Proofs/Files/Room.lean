import ClassMold.Proofs.Files.Generated

/-! What has room in a directory that is there. The operating system sets limits to the
length of a name and of a whole path; within these limits a source file can be put into any
directory that is reached, and nothing but its text can keep it from being put there. -/
namespace ClassMold.Room
open ClassMold.Path Paths Growth Staging Generated

variable {tree : FileTree} {place : List Text} {directory : Path} {homes : Homes}
  {mark name t u outputDir : Text} {c : ClassTree} {options : OutputOptions}

/-! ### Paths that can be handed to the operating system -/

/-- A code point that stands for bytes of a name. -/
def HasBytes : CodePoint → Prop
  | .scalar _ => True
  | .surrogate offset => standsForByte offset = true

theorem unencodable_none_iff (position : Nat) (t : Text) :
    unencodableFrom? position t = none ↔ ∀ c ∈ t, HasBytes c := by
  induction t generalizing position with
  | nil => simp [unencodableFrom?]
  | cons c rest ih =>
    cases c with
    | scalar c => simp [unencodableFrom?, HasBytes, ih]
    | surrogate offset =>
      by_cases stands : standsForByte offset = true
      · simp [unencodableFrom?, HasBytes, stands, ih]
      · simp [unencodableFrom?, HasBytes, stands]

theorem path_error_none_iff :
    pathError? t = none ↔ ∀ c ∈ t, HasBytes c ∧ c ≠ .scalar '\x00' := by
  unfold pathError?
  cases bad : unencodableFrom? 0 t with
  | some error =>
    have fails : ¬ ∀ c ∈ t, HasBytes c ∧ c ≠ .scalar '\x00' := fun all => by
      rw [(unencodable_none_iff 0 t).mpr fun c listed => (all c listed).1] at bad
      cases bad
    simpa using fails
  | none =>
    have all := (unencodable_none_iff 0 t).mp bad
    by_cases null : CodePoint.scalar '\x00' ∈ t
    · simp only [List.contains_iff_mem.mpr null, ↓reduceIte, reduceCtorEq, false_iff]
      exact fun each => (each _ null).2 rfl
    · have other : t.contains (.scalar '\x00') = false := by simpa using null
      simp only [other, Bool.false_eq_true, ↓reduceIte, true_iff]
      refine fun c listed => ⟨all c listed, ?_⟩
      rintro rfl
      exact null listed

theorem nameable_has_bytes {c : CodePoint} (nameable : IsNameable c) :
    HasBytes c ∧ c ≠ .scalar '\x00' := by
  refine ⟨?_, nameable.2.1⟩
  cases c with
  | scalar c => trivial
  | surrogate offset => cases nameable.2.2

/-- What names a directory names what is inside of it, too. -/
theorem inside_path_error (plain : pathError? directory.toText = none)
    (nameable : ∀ c ∈ name, IsNameable c) : pathError? (inside directory name).toText = none := by
  rw [path_error_none_iff] at plain ⊢
  rw [inside_text]
  intro c listed
  rcases List.mem_append.mp listed with led | named
  · rcases lead_part led with rfl | part
    · exact ⟨trivial, by decide⟩
    · exact plain c part
  · exact nameable_has_bytes (nameable c named)

/-! ### Sizes -/

theorem name_size_append (t u : Text) : fileNameSize (t ++ u) = fileNameSize t + fileNameSize u := by
  simp [fileNameSize, nameBytes]

/-- A name fits into a directory: neither the name nor the path to it is too long. -/
structure Fits (directory : Path) (name : Text) : Prop where
  short : fileNameSize name ≤ FileTree.nameLimit
  near : fileNameSize (inside directory name).toText < FileTree.pathLimit

/-- A staging file takes more room than the file that it is for. -/
theorem fits_target (fits : Fits directory (stagingName mark name)) : Fits directory name := by
  obtain ⟨short, near⟩ := fits
  simp only [inside_text, stagingName, name_size_append] at short near
  refine ⟨by omega, ?_⟩
  rw [inside_text, name_size_append]
  omega

/-! ### Places in a directory -/

/-- A name that fits leads to the place of that name in the directory. -/
theorem place_of_fits (normal : IsNormal directory) (leads : tree.place directory.toText = .ok place)
    (present : tree.entry? place = some .directory) (nameable : ∀ c ∈ name, IsNameable c)
    (long : 2 < name.length) (fits : Fits directory name) :
    tree.place (inside directory name).toText = .ok (place ++ [name]) := by
  obtain ⟨step, other⟩ := long_name_step nameable long
  obtain ⟨plain, -, follows⟩ := (place_normal_iff normal).mp leads
  refine (place_normal_iff (inside_normal normal step)).mpr
    ⟨inside_path_error plain nameable, fits.near, ?_⟩
  have goes : FileTree.next place name = .ok (place ++ [name]) := by
    have none : name.any Utf8.isSurrogate = false :=
      List.any_eq_false.mpr fun c listed => by simp [(nameable c listed).2.2]
    have size : ¬ fileNameSize name > FileTree.nameLimit := Nat.not_lt.mpr fits.short
    simp [FileTree.next, other, size, canonicalName, none]
  simp only [inside]
  by_cases alone : directory.steps = []
  · rw [alone] at follows ⊢
    cases follows
    exact goes
  · exact (follow_step alone).mpr ⟨place, follows, present, goes⟩

/-- Where a source file fits into a directory that is there, it is put there unless it has no
bytes. -/
theorem write_source_present (legal : c.name.isIdentifier = true) (fresh : Fresh mark tree)
    (expanded : (ofText outputDir).expandHome homes = .ok directory)
    (leads : tree.place directory.toText = .ok place) (present : tree.entry? place = some .directory)
    (free : tree.entry? (place ++ [sourceName c.name]) ≠ some .directory)
    (fits : Fits directory (stagingName mark (sourceName c.name))) :
    (writeSource (FileTree.host homes mark) c outputDir options).run tree =
      match Utf8.encode (c.renderFile options) with
      | .error e => (.quietly (.error (.unencodable e)), tree)
      | .ok bytes =>
        (⟨[.wrote (inside directory (sourceName c.name)).toText c.walk.length],
          .ok (inside directory (sourceName c.name))⟩,
          tree.insert (place ++ [sourceName c.name]) (.file bytes)) := by
  have normal := expand_normal (of_text_normal _) expanded
  have long := source_name_long c.name
  have longer := staging_name_longer mark (sourceName c.name)
  have path := (source_path_ok_iff legal).mpr ⟨directory, expanded, rfl⟩
  have staged := place_of_fits normal leads present (staging_name_nameable legal fresh)
    (Nat.lt_trans long longer) fits
  have vacant := staging_free normal legal fresh staged
  have target := place_of_fits normal leads present (source_name_nameable legal) long (fits_target fits)
  have apart : place ++ [sourceName c.name] ≠ place ++ [stagingName mark (sourceName c.name)] := by
    intro same
    rw [← (List.cons.inj (List.append_cancel_left same)).1] at longer
    exact Nat.lt_irrefl _ longer
  rw [← staging_path_inside] at staged
  have made : ((FileTree.host homes mark).createDirectories
      (inside directory (sourceName c.name)).parent).run tree = (.ok (), tree) := by
    rw [inside_parent]
    exact create_directories_present leads present
  unfold writeSource
  rw [host_homes, path]
  refine (run_bind_of made).trans ?_
  refine (run_bind_of (replace_file_vacant staged vacant)).trans ?_
  cases encoded : Utf8.encode (c.renderFile options) with
  | error e => rfl
  | ok bytes =>
    have inner : place ++ [stagingName mark (sourceName c.name)] ≠ [] := by simp
    have moved : (tree.insert (place ++ [stagingName mark (sourceName c.name)]) (.file bytes)).move
        (stagingPath mark (inside directory (sourceName c.name))).toText
        (inside directory (sourceName c.name)).toText =
          .ok (tree.insert (place ++ [sourceName c.name]) (.file bytes)) :=
      (move_staged staged vacant).mpr ⟨_, target, by rwa [entry_insert inner, if_neg apart], rfl⟩
    simp only [moved]
    rfl

/-- Where a source file fits into a directory that is there, what comes of an inferred class
depends on its text alone. -/
theorem generate_present {input className : Text} (legal : className.isIdentifier = true)
    (fresh : Fresh mark tree) (inferred : (inferredAt homes tree input className).outcome = .ok c)
    (expanded : (ofText outputDir).expandHome homes = .ok directory)
    (leads : tree.place directory.toText = .ok place) (present : tree.entry? place = some .directory)
    (free : tree.entry? (place ++ [sourceName className]) ≠ some .directory)
    (fits : Fits directory (stagingName mark (sourceName className))) :
    ∃ reported after, (generate (FileTree.host homes mark) input className outputDir options).run tree =
        (reported, after) ∧
      match Utf8.encode (c.renderFile options) with
      | .error e => reported.outcome = .error (.output (.unencodable e))
      | .ok bytes => reported.outcome = .ok (inside directory (sourceName className)) ∧
        after = tree.insert (place ++ [sourceName className]) (.file bytes) := by
  have named := inferred_name inferred
  subst named
  have wrote : (writeSource (FileTree.host homes mark) c outputDir options).run tree = _ :=
    write_source_present legal fresh expanded leads present free fits
  cases encoded : Utf8.encode (c.renderFile options) with
  | error e =>
    rw [encoded] at wrote
    obtain ⟨notices, ran⟩ := generate_of_class inferred wrote
    exact ⟨_, _, ran, rfl⟩
  | ok bytes =>
    rw [encoded] at wrote
    obtain ⟨notices, ran⟩ := generate_of_class inferred wrote
    exact ⟨_, _, ran, rfl, rfl⟩

end ClassMold.Room
