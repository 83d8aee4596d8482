import RecordStore.Storage.Disk

/-! What a store relies on: a write that succeeds sets the whole content of its file. Nothing is
asked of writes that fail. The file system in memory is of this kind; a write there may pass through
directories, and leaves every directory in its place. -/
namespace RecordStore

/-- File systems in which what was written is read. -/
class LawfulFileSystem (F : Type) [FileSystem F] : Prop where
  read_of_write {files written : F} {path text : String} :
    FileSystem.write files path text = (.ok (), written) →
      FileSystem.read written path = .ok text

theorem bind_eq_ok {ε α β : Type} {first : Except ε α} {second : α → Except ε β} {result : β}
    (both : (first >>= second) = .ok result) :
    ∃ middle, first = .ok middle ∧ second middle = .ok result := by
  cases first with
  | error => cases both
  | ok middle => exact ⟨middle, rfl, both⟩

theorem map_eq_ok {ε α β : Type} {first : Except ε α} {f : α → β} {result : β}
    (mapped : first.map f = .ok result) : ∃ value, first = .ok value ∧ f value = result := by
  cases first with
  | error => cases mapped
  | ok value => exact ⟨value, rfl, Except.ok.inj mapped⟩

namespace Disk

theorem fromUTF8?_toUTF8 (text : String) : String.fromUTF8? text.toUTF8 = some text :=
  dif_pos text.isValidUTF8

variable {disk : Disk} {place : List String}

theorem entry?_put_self (some : place ≠ []) (entry : Entry) :
    Disk.entry? (disk.put place entry) place = .some entry := by
  simp [ entry?, put, some]

theorem lookup_filter_ne {other : List String} (different : (other == place) = false)
    (entries : List (List String × Entry)) :
    (entries.filter (·.1 != place)).lookup other = entries.lookup other := by
  induction entries with
  | nil => rfl
  | cons first rest ih =>
    obtain ⟨position, held⟩ := first
    by_cases same : position = place
    · simp [List.lookup_cons, same, different, ih]
    · simp [List.lookup_cons, same, ih]

theorem entry?_put_of_ne {other : List String} (different : other ≠ place) (entry : Entry) :
    Disk.entry? (disk.put place entry) other = disk.entry? other := by
  have missed : (other == place) = false := by simpa using different
  simp [ entry?, put, List.lookup_cons, missed, lookup_filter_ne missed]

theorem look_eq_ok {name : String} {found : Option Entry}
    (looked : disk.look place name = .ok found) :
    tooLong name = false ∧ disk.entry? (place ++ [name]) = found := by
  unfold look at looked
  split at looked
  · cases looked
  · next short => exact ⟨by simpa using short, by simpa using looked⟩

theorem look_of_short {name : String} (short : tooLong name = false) :
    disk.look place name = .ok (disk.entry? (place ++ [name])) := by
  rw [look, short, if_neg (by decide)]

/-- A new file where there was no directory is in nobody's way. -/
theorem walk_put_file {position : List String} (free : disk.entry? position ≠ some .directory)
    (content : ByteArray) {names reached : List String}
    (walked : disk.walk place names = .ok reached) :
    (disk.put position (.file content)).walk place names = .ok reached := by
  induction names generalizing place with
  | nil => exact walked
  | cons name rest ih =>
    simp only [walk] at walked ⊢
    by_cases here : name = "."
    · rw [if_pos here] at walked ⊢
      exact ih walked
    rw [if_neg here] at walked ⊢
    by_cases above : name = ".."
    · rw [if_pos above] at walked ⊢
      exact ih walked
    rw [if_neg above] at walked ⊢
    cases looked : disk.look place name with
    | error error =>
      rw [looked] at walked
      cases walked
    | ok found =>
      rw [looked] at walked
      rcases found with _ | _ | _
      · cases walked
      · cases walked
      · -- The walk goes through a directory here, so this is not where the file is put.
        obtain ⟨short, held⟩ := look_eq_ok looked
        have elsewhere : place ++ [name] ≠ position := by
          rintro rfl
          exact free held
        rw [look_of_short short, entry?_put_of_ne elsewhere, held]
        exact ih walked

theorem target_put_file {position start names : List String}
    (free : disk.entry? position ≠ some .directory) (content : ByteArray) {target : Target}
    (found : disk.target start names = .ok target) :
    (disk.put position (.file content)).target start names = .ok target := by
  unfold Disk.target at found ⊢
  cases ends : names.getLast? with
  | none =>
    rw [ends] at found
    exact found
  | some last =>
    rw [ends] at found
    by_cases special : last = "." ∨ last = ".."
    · simp only [special, if_true] at found ⊢
      obtain ⟨reached, walked, here⟩ := bind_eq_ok found
      rw [walk_put_file free content walked]
      exact here
    · simp only [special, if_false] at found ⊢
      obtain ⟨reached, walked, here⟩ := bind_eq_ok found
      rw [walk_put_file free content walked]
      exact here

/-- What a successful write did: it put the content under a name that no directory has. -/
theorem writeBytes_eq_ok {path : String} {content : ByteArray} {written : Disk}
    (wrote : disk.writeBytes path content = .ok written) :
    ∃ (road : Route) (place : List String) (last : String), route path = .ok road ∧
      road.slash = false ∧ disk.target road.start road.names = .ok (.name place last) ∧
      tooLong last = false ∧ disk.entry? (place ++ [last]) ≠ some .directory ∧
      written = disk.put (place ++ [last]) (.file content) := by
  obtain ⟨road, routed, wrote⟩ := bind_eq_ok wrote
  obtain ⟨target, found, wrote⟩ := bind_eq_ok wrote
  cases target with
  | directory => cases wrote
  | name place last =>
    cases slash : road.slash with
    | true => simp [slash, throw, throwThe, MonadExceptOf.throw, bind, Except.bind] at wrote
    | false =>
      simp only [slash, Bool.false_eq_true, if_false] at wrote
      obtain ⟨held, looked, wrote⟩ := bind_eq_ok wrote
      obtain ⟨short, holds⟩ := look_eq_ok looked
      refine ⟨road, place, last, routed, slash, found, short, ?_, ?_⟩
      · rintro directory
        rw [directory] at holds
        subst holds
        cases wrote
      · rcases held with _ | _ | _ <;> cases wrote <;> rfl

theorem readBytes_of_writeBytes {path : String} {content : ByteArray} {written : Disk}
    (wrote : disk.writeBytes path content = .ok written) :
    written.readBytes path = .ok content := by
  obtain ⟨road, place, last, routed, slash, found, short, free, rfl⟩ := writeBytes_eq_ok wrote
  have held : (disk.put (place ++ [last]) (.file content)).look place last =
      .ok (some (.file content)) := by
    rw [look_of_short short, entry?_put_self (by simp)]
  simp only [readBytes, routed, target_put_file free content found, held, slash, bind,
    Except.bind]
  rfl

instance : LawfulFileSystem Disk where
  read_of_write {files written path text} wrote := by
    simp only [FileSystem.write] at wrote
    cases done : files.writeBytes path text.toUTF8 with
    | error =>
      rw [done] at wrote
      cases wrote
    | ok disk =>
      rw [done] at wrote
      cases wrote
      simp only [FileSystem.read, Disk.read, readBytes_of_writeBytes done, bind, Except.bind,
        fromUTF8?_toUTF8]
      rfl

end Disk

/-- A file system whose next writes fail where faults are due, each by itself; a write that is not
due to fail is left to the file system underneath. -/
structure Faulty (F : Type) where
  inner : F
  faults : List (Option IoError)

namespace Faulty
variable {F : Type} [FileSystem F]

instance : FileSystem (Faulty F) where
  read files path := FileSystem.read files.inner path
  write files path text :=
    match files.faults with
    | some error :: later => (.error error, ⟨files.inner, later⟩)
    | faults =>
      let (answer, inner) := FileSystem.write files.inner path text
      (answer, ⟨inner, faults.tail⟩)
  makeDirs files path :=
    let (answer, inner) := FileSystem.makeDirs files.inner path
    (answer, { files with inner := inner })

instance [LawfulFileSystem F] : LawfulFileSystem (Faulty F) where
  read_of_write {files written path text} wrote := by
    simp only [FileSystem.write] at wrote
    split at wrote
    · cases wrote
    · have beneath : FileSystem.write files.inner path text = (.ok (), written.inner) := by
        rw [Prod.ext_iff] at wrote
        exact Prod.ext wrote.1 (congrArg inner wrote.2)
      have read : FileSystem.read written.inner path = .ok text :=
        LawfulFileSystem.read_of_write beneath
      exact read

end Faulty
end RecordStore
