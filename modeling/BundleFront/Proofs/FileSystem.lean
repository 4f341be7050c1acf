import BundleFront.Proofs.Path.Walk

/-!
# Absolute forms and the files under them

The absolute form of a path is where the walk along it ends that starts in the working
directory.  It stays the same when it is taken again, and when it is taken of the path
as it is seen from the working directory.  A path that goes on from another one has the
absolute form that it has behind the absolute form of that one.

Files in memory are kept under paths as they were written, seen from the working
directory, and two spellings are one file if they have the same components.  The
absolute form is clean, and the path that a file was added under need not be: where it
has a `..`, the file is not found under the absolute form.

In the file system of the null device a path that leads somewhere leads where the walk
along it goes, so there nothing is lost by the absolute form.

* `FileSystem.absolute?_normalizes` — the laws of absolute forms.
* `MemoryFiles.read_absolute?_insert` — what is read under the absolute form of the path
  that a file was added under.
* `NullDevice.read_absolute?` — what can be read under a path is read under its absolute
  form.
-/

namespace BundleFront

namespace FileSystem

variable {fs : FileSystem} {base : Path}

/-- With a working directory, every path has an absolute form. -/
theorem absolute?_of_workingDirectory (hbase : fs.workingDirectory = .ok base) (p : Path) :
    fs.absolute? p = some (base.join p).clean := by
  unfold absolute?
  by_cases h : p.isAbsolute = true
  · rw [if_pos h, Path.join_of_isAbsolute base h]
  · rw [if_neg h, hbase]

/-- An absolute path has an absolute form whatever the working directory. -/
theorem absolute?_of_isAbsolute (fs : FileSystem) {p : Path} (h : p.isAbsolute = true) :
    fs.absolute? p = some p.clean := if_pos h

theorem exists_clean_of_absolute? {p q : Path} (h : fs.absolute? p = some q) :
    ∃ r : Path, q = r.clean := by
  unfold absolute? at h
  split at h
  · exact ⟨p, (Option.some.inj h).symm⟩
  · split at h
    · exact ⟨_, (Option.some.inj h).symm⟩
    · cases h

/-- From an absolute working directory, absolute forms are where walks end, and nothing else. -/
theorem absolute?_eq_iff (hbase : fs.workingDirectory = .ok base)
    (habsolute : base.isAbsolute = true) (p q : Path) :
    fs.absolute? p = fs.absolute? q ↔
      Path.walk [] (base.join p) = Path.walk [] (base.join q) := by
  rw [absolute?_of_workingDirectory hbase, absolute?_of_workingDirectory hbase, Option.some.injEq]
  exact Path.clean_eq_iff (Path.isAbsolute_join habsolute) (Path.isAbsolute_join habsolute)

/-- From an absolute working directory, every path has an absolute form: the names that the walk
along the path ends with.  The form is its own absolute form, and that of the path seen from the
working directory; a path that goes on from `p` may as well go on from the absolute form of `p`.
Without a working directory only absolute paths have one. -/
theorem absolute?_normalizes (fs : FileSystem) (p : Path) :
    (∀ base, fs.workingDirectory = .ok base → base.isAbsolute = true →
      ∃ q : Path, fs.absolute? p = some q ∧ q.IsNormal ∧
        q = .ofNames (Path.walk [] (base.join p)).reverse ∧
        fs.absolute? q = some q ∧ fs.absolute? (base.join p) = some q ∧
        ∀ r, fs.absolute? (p.join r) = fs.absolute? (q.join r)) ∧
    ∀ error, fs.workingDirectory = .error error →
      ((fs.absolute? p).isSome = true ↔ p.isAbsolute = true) := by
  refine ⟨?reached, ?unreached⟩
  case reached =>
    intro base hbase habsolute
    have hjoined : (base.join p).isAbsolute = true := Path.isAbsolute_join habsolute
    have hnormal : (base.join p).clean.IsNormal := Path.isNormal_clean hjoined
    have hclean : (base.join p).clean.isAbsolute = true := hnormal.isPlain.1
    refine ⟨(base.join p).clean, absolute?_of_workingDirectory hbase p, hnormal,
      Path.clean_eq_walk hjoined, ?again, absolute?_of_isAbsolute fs hjoined, ?onward⟩
    case again => rw [absolute?_of_isAbsolute fs hclean, hnormal.clean_eq]
    case onward =>
      -- Both forms are that of `r` seen from the joined path, before it is cleaned and after.
      intro r
      rw [absolute?_of_workingDirectory hbase, Path.clean_join_join habsolute,
        absolute?_of_isAbsolute fs (Path.isAbsolute_join hclean), Path.clean_join hjoined]
  case unreached =>
    intro error herror
    unfold absolute?
    by_cases h : p.isAbsolute = true
    · simp [h]
    · simp [h, herror]

/-- A path that leads above the root and back, from a working directory that is not clean. -/
theorem absolute?_normalizes_aboveRoot :
    let base : Path := ⟨"/work/./tmp/.."⟩
    let fs := ({ workingDirectory := base } : MemoryFiles).toFileSystem
    fs.workingDirectory = .ok base ∧ base.isAbsolute = true ∧
      fs.absolute? ⟨"../..//a/b/."⟩ = some ⟨"/a/b"⟩ ∧ Path.IsNormal ⟨"/a/b"⟩ ∧
      fs.absolute? ⟨"/a/b"⟩ = some ⟨"/a/b"⟩ ∧
      ∀ r, fs.absolute? (Path.join ⟨"../..//a/b/."⟩ r) = fs.absolute? (Path.join ⟨"/a/b"⟩ r) := by
  intro base fs
  have hbase : fs.workingDirectory = .ok base := rfl
  have habsolute : base.isAbsolute = true := by decide
  obtain ⟨q, hq, hnormal, -, hagain, -, honward⟩ :=
    (absolute?_normalizes fs ⟨"../..//a/b/."⟩).1 base hbase habsolute
  have hform : fs.absolute? ⟨"../..//a/b/."⟩ = some ⟨"/a/b"⟩ := by decide +kernel
  obtain rfl : q = ⟨"/a/b"⟩ := Option.some.inj (hq.symm.trans hform)
  exact ⟨hbase, habsolute, hform, hnormal, hagain, honward⟩

end FileSystem

namespace MemoryFiles

/-- Adding a file changes what is found under its components, and nothing else. -/
theorem find?_put (key q : Path) (contents : String) (files : List (Path × String)) :
    ((put key contents files).find? fun file => file.1.same q).map Prod.snd =
      if key.same q = true then some contents
      else (files.find? fun file => file.1.same q).map Prod.snd := by
  have hsame (p r : Path) : p.same r = true ↔ p.components = r.components := beq_iff_eq
  induction files with
  | nil => by_cases hq : key.same q = true <;> simp [put, hq]
  | cons file rest ih =>
      by_cases hkey : file.1.same key = true
      · -- The file keeps its spelling, which has the components of the new one.
        have hother : file.1.same q = key.same q := by
          rw [Bool.eq_iff_iff, hsame, hsame, (hsame _ _).mp hkey]
        rw [put, if_pos hkey]
        by_cases hq : key.same q = true <;> simp [hother, hq]
      · rw [put, if_neg hkey]
        by_cases hq : file.1.same q = true
        · have hother : ¬ key.same q = true := by
            rw [hsame] at hkey hq ⊢
            exact fun h => hkey (hq.trans h.symm)
          simp [hq, hother]
        · simpa [hq] using ih

theorem read?_insert (m : MemoryFiles) (p q : Path) (contents : String) :
    (m.insert p contents).read? q =
      if (m.workingDirectory.join p).same q = true then some contents else m.read? q :=
  find?_put (m.workingDirectory.join p) q contents m.files

/-- A file that is added is found under the absolute form of its path if there is no `..` among the
components of the path as it is seen from the working directory.  If there is one, adding the file
does not change what is found there. -/
theorem read_absolute?_insert (m : MemoryFiles) (hbase : m.workingDirectory.isAbsolute = true)
    (p : Path) (contents : String) :
    let files := (m.insert p contents).toFileSystem
    ∃ q, files.absolute? p = some q ∧
      (.up ∉ (m.workingDirectory.join p).components → files.read q = .ok contents) ∧
      (.up ∈ (m.workingDirectory.join p).components → files.read q = m.toFileSystem.read q) := by
  intro files
  -- The file is kept under the joined path, and it is looked for under the clean form of that.
  have hsame := Path.same_clean_iff (Path.isAbsolute_join hbase (p := p))
  refine ⟨(m.workingDirectory.join p).clean, FileSystem.absolute?_of_workingDirectory rfl p, ?plain,
    ?crooked⟩
  case plain =>
    intro hup
    simp only [files, toFileSystem, read?_insert, if_pos (hsame.mpr hup)]
  case crooked =>
    intro hup
    simp only [files, toFileSystem, read?_insert, if_neg (hsame.not.mpr (not_not.mpr hup))]

theorem read_absolute?_insert_doubledSlash :
    let m : MemoryFiles := { workingDirectory := ⟨"/project/"⟩, files := [(⟨"/project/a"⟩, "old")] }
    m.workingDirectory.isAbsolute = true ∧
      .up ∉ (m.workingDirectory.join ⟨".//a/."⟩).components ∧
      (m.insert ⟨".//a/."⟩ "new").toFileSystem.absolute? ⟨".//a/."⟩ = some ⟨"/project/a"⟩ ∧
      (m.insert ⟨".//a/."⟩ "new").toFileSystem.read ⟨"/project/a"⟩ = .ok "new" := by
  intro m
  have hbase : m.workingDirectory.isAbsolute = true := by decide
  have hup : .up ∉ (m.workingDirectory.join ⟨".//a/."⟩).components := by decide +kernel
  obtain ⟨q, hq, hread, -⟩ := read_absolute?_insert m hbase ⟨".//a/."⟩ "new"
  have hform : (m.insert ⟨".//a/."⟩ "new").toFileSystem.absolute? ⟨".//a/."⟩ =
      some ⟨"/project/a"⟩ := by decide +kernel
  obtain rfl : q = ⟨"/project/a"⟩ := Option.some.inj (hq.symm.trans hform)
  exact ⟨hbase, hup, hform, hread hup⟩

/-- A file that is added under a path with `..` is missing under the absolute form of this path. -/
theorem added_missing_behind_up :
    let m : MemoryFiles := { workingDirectory := ⟨"/project"⟩ }
    let files := (m.insert ⟨"src/../a.js"⟩ "a").toFileSystem
    m.workingDirectory.isAbsolute = true ∧
      ¬ ∃ q, files.absolute? ⟨"src/../a.js"⟩ = some q ∧ files.read q = .ok "a" := by
  intro m files
  have hform : files.absolute? ⟨"src/../a.js"⟩ = some ⟨"/project/a.js"⟩ := by decide +kernel
  refine ⟨by decide, ?_⟩
  rintro ⟨q, hq, hread⟩
  obtain rfl : q = ⟨"/project/a.js"⟩ := Option.some.inj (hq.symm.trans hform)
  have hmissing : files.read ⟨"/project/a.js"⟩ = .error (.notFound ⟨"/project/a.js"⟩) := by
    decide +kernel
  rw [hmissing] at hread
  cases hread

end MemoryFiles

namespace NullDevice

/-- The names on the way to a place, the last one first. -/
def Place.names : Place → List (List Char)
  | .root => []
  | .devices => ["dev".toList]
  | .null => ["null".toList, "dev".toList]

/-- A step that leads somewhere leads where a walk goes. -/
theorem Place.enter_names {place next : Place} {segment : List Char}
    (h : place.step segment = .ok next) : Path.enter place.names segment = next.names := by
  unfold Place.step at h
  split at h <;> cases h <;> rfl

theorem Place.foldl_enter_names {place next : Place} {segments : List (List Char)}
    (h : segments.foldlM Place.step place = .ok next) :
    segments.foldl Path.enter place.names = next.names := by
  induction segments generalizing place with
  | nil =>
      cases h
      rfl
  | cons segment rest ih =>
      cases hstep : place.step segment with
      | error deadEnd =>
          rw [List.foldlM_cons, hstep] at h
          cases h
      | ok middle =>
          rw [List.foldlM_cons, hstep] at h
          rw [List.foldl_cons, Place.enter_names hstep]
          exact ih h

/-- A path that leads somewhere is absolute, and the walk along it ends there. -/
theorem walk_of_find {p : Path} {place : Place} (h : find p = .ok place) :
    p.isAbsolute = true ∧ Path.walk [] p = place.names := by
  unfold find at h
  split at h
  · rename_i habsolute
    refine ⟨habsolute, ?_⟩
    obtain ⟨rest, hrest⟩ := List.head?_eq_some_iff.mp (eq_of_beq habsolute)
    have hsplit : Text.splitOn '/' ('/' :: rest) = [] :: Text.splitOn '/' rest :=
      Text.splitOn_append_separator '/' [] rest
    rw [hrest] at h
    rw [Path.walk, hrest, hsplit, List.foldl_cons]
    exact Place.foldl_enter_names h
  · cases h

theorem find_ofNames (place : Place) : find (.ofNames place.names.reverse) = .ok place := by
  cases place <;> decide

theorem read_eq_ok_iff {p : Path} {contents : String} :
    fileSystem.read p = .ok contents ↔ find p = .ok .null ∧ contents = "" := by
  unfold fileSystem
  dsimp only
  constructor
  · intro h
    split at h
    · rename_i hfind
      cases h
      exact ⟨hfind, rfl⟩
    all_goals cases h
  · rintro ⟨hfind, rfl⟩
    rw [hfind]

/-- What can be read under a path is read under its absolute form, however the path is written. -/
theorem read_absolute? {p : Path} {contents : String} (h : fileSystem.read p = .ok contents) :
    ∃ q, fileSystem.absolute? p = some q ∧ fileSystem.read q = .ok contents := by
  obtain ⟨hfind, hcontents⟩ := read_eq_ok_iff.mp h
  obtain ⟨habsolute, hwalk⟩ := walk_of_find hfind
  refine ⟨p.clean, FileSystem.absolute?_of_isAbsolute fileSystem habsolute, ?_⟩
  rw [Path.clean_eq_walk habsolute, hwalk]
  exact read_eq_ok_iff.mpr ⟨find_ofNames .null, hcontents⟩

end NullDevice
end BundleFront
