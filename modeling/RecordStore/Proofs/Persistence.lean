import RecordStore.Proofs.FileSystems
import RecordStore.Proofs.RoundTrip
import RecordStore.Proofs.Selections
import RecordStore.Store

/-! Running the actions on a document. A document that was persisted reads as its records were
encoded, so loading it gives the echoes of the records. Which records come back as they were is
thereby a matter of their depth and of their numbers, and never of the layout. -/
namespace RecordStore

namespace Json

/-- Whether a record outlasts its document: with the array around it no more than 127 containers
stand inside each other, and each number in it is read from its own text again. -/
def Lasting (record : Json) : Prop :=
  record.depth ≤ 126 ∧ ∀ x, Part (.number x) record →
    ofText (compactText (.number x)) = .ok (.number x)

def Integral (value : Json) : Prop :=
  ∀ x, Part (.number x) value → ∃ n fits, x = .integer n fits

theorem ofText_number_iff (x : Number) :
    ofText (compactText (.number x)) = .ok (.number x) ↔ x.echo? = some x := by
  have read : (ofText (compactText (.number x))).toOption = x.echo?.map .number :=
    toOption_ofText_write .compact 0 (.number x)
  constructor
  · intro same
    rw [same] at read
    obtain ⟨y, echo, equal⟩ := Option.map_eq_some_iff.1 read.symm
    cases equal
    exact echo
  · intro echo
    rw [echo] at read
    cases text : ofText (compactText (.number x)) with
    | error =>
      rw [text] at read
      cases read
    | ok value =>
      rw [text] at read
      cases read
      rfl

theorem Integral.lasting_iff {record : Json} (integral : record.Integral) :
    record.Lasting ↔ record.depth ≤ 126 := by
  apply and_iff_left
  intro x inside
  obtain ⟨n, fits, rfl⟩ := integral x inside
  exact (ofText_number_iff _).2 (Number.echo?_integer n fits)

theorem echoItems?_same_iff_lasting {records : List Json}
    (keyed : ∀ record ∈ records, record.WellKeyed) :
    (∃ echoes, echoItems? (some 127) 1 records = some echoes ∧ sameItems echoes records = true) ↔
      ∀ record ∈ records, record.Lasting := by
  rw [echoItems?_same_iff keyed (by decide)]
  have shallow (record : Json) : 1 + record.depth ≤ 127 ↔ record.depth ≤ 126 := by omega
  simp only [Lasting, ofText_number_iff, shallow]

theorem echoItems?_of_lasting {records : List Json}
    (keyed : ∀ record ∈ records, record.WellKeyed)
    (lasting : ∀ record ∈ records, record.Lasting) :
    echoItems? (some 127) 1 records = some records := by
  apply echoItems?_self
  intro record present
  obtain ⟨shallow, numbers⟩ := lasting record present
  apply echo?_self record (keyed record present)
  · rintro _ ⟨⟩
    omega
  · intro x inside
    exact (ofText_number_iff x).1 (numbers x inside)

end Json

namespace Document

/-- What comes back of a document is equal to the records, as data or altogether, exactly if each
record is lasting; and nothing comes back if a record is nested too deep. -/
theorem decode_encode_eq_iff {records : List Json} (keyed : ∀ record ∈ records, record.WellKeyed)
    (settings : Settings) :
    (decode (encode records settings) = records ↔ ∀ record ∈ records, record.Lasting) ∧
    ((decode (encode records settings) == records) = true ↔
      ∀ record ∈ records, record.Lasting) ∧
    ((∃ record ∈ records, 126 < record.depth) → decode (encode records settings) = []) := by
  rw [decode_encode]
  have back (lasting : ∀ record ∈ records, record.Lasting) :
      (Json.echoItems? (some 127) 1 records).getD [] = records := by
    rw [Json.echoItems?_of_lasting keyed lasting]
    rfl
  have reflexive : (records == records) = true := by
    rw [Json.beq_items_iff, Json.sameItems_iff, List.forall₂_same]
    intro record present
    exact Json.sameData_self record (keyed record present)
  have needed (same : ((Json.echoItems? (some 127) 1 records).getD [] == records) = true) :
      ∀ record ∈ records, record.Lasting := by
    cases echo : Json.echoItems? (some 127) 1 records with
    | none =>
      rw [echo] at same
      cases records with
      | nil => simp
      | cons => cases same
    | some echoes =>
      rw [echo] at same
      exact (Json.echoItems?_same_iff_lasting keyed).1 ⟨echoes, echo, Json.beq_items_iff.1 same⟩
  refine ⟨⟨?_, back⟩, ⟨needed, ?_⟩, ?_⟩
  · intro same
    apply needed
    rw [same, reflexive]
  · intro lasting
    rw [back lasting, reflexive]
  · rintro ⟨record, present, deep⟩
    rw [Json.echoItems?_eq_none present (Json.echo?_of_deep record (by omega) (by decide))]
    rfl

end Document

namespace World

variable {F : Type} [FileSystem F] (world : World F)

theorem run_load (path : String) :
    (run (Document.load path) world).1 =
        (FileSystem.read world.files path).toOption.elim [] Document.decode ∧
      (run (Document.load path) world).2.files = world.files := by
  simp only [Document.load, run_bind, run_readFile]
  cases FileSystem.read world.files path with
  | ok text => simp only [run_bind, run_report]; exact ⟨rfl, rfl⟩
  | error error => simp only [run_bind, run_report]; exact ⟨rfl, rfl⟩

/-- Whether the document of a store holds exactly the records in memory. -/
def Agrees (world : World F) (store : Store) : Prop :=
  FileSystem.read world.files store.path = .ok (Document.encode store.records store.settings)

theorem load_of_agrees {world : World F} {store : Store} (agrees : world.Agrees store) :
    (run (Document.load store.path) world).1 =
      Document.decode (Document.encode store.records store.settings) := by
  rw [(run_load world store.path).1, agrees]
  rfl

theorem run_replace (store : Store) (records : List Json) :
    run (store.replace records) world =
      (((run { store with records := records }.persist world).1, { store with records := records }),
        (run { store with records := records }.persist world).2) := by
  simp only [Store.replace, run_bind, run_pure]

variable [LawfulFileSystem F]

/-- After a document was persisted, its file holds the whole encoding. -/
theorem read_of_persist {path : String} {records : List Json} {settings : Settings}
    (persisted : (run (Document.persist path records settings) world).1 = .ok ()) :
    FileSystem.read (run (Document.persist path records settings) world).2.files path =
      .ok (Document.encode records settings) := by
  simp only [Document.persist, run_bind] at persisted ⊢
  cases made : (run (Document.makeParents path settings) world).1 with
  | error error =>
    rw [made] at persisted
    cases persisted
  | ok =>
    rw [made] at persisted
    simp only [run_bind, run_writeFile] at persisted ⊢
    cases wrote : FileSystem.write (run (Document.makeParents path settings) world).2.files path
        (Document.encode records settings) with
    | mk answer files =>
      rw [wrote] at persisted
      cases answer with
      | error => cases persisted
      | ok => exact LawfulFileSystem.read_of_write wrote

theorem agrees_of_persist {store : Store} (persisted : (run store.persist world).1 = .ok ()) :
    Agrees (run store.persist world).2 store :=
  read_of_persist world persisted

theorem agrees_of_replace {store : Store} {records : List Json}
    (replaced : (run (store.replace records) world).1.1 = .ok ()) :
    Agrees (run (store.replace records) world).2 (run (store.replace records) world).1.2 := by
  rw [run_replace] at replaced ⊢
  exact agrees_of_persist world replaced

theorem agrees_of_commit {q : Query Store} {records : List Json} {count changed : Nat}
    (committed : (run (q.commit records count) world).1.1 = .ok changed) :
    Agrees (run (q.commit records count) world).2
      (run (q.commit records count) world).1.2.backing := by
  simp only [Query.run_commit, RecordSet.sync, RecordSet.withRecords, run_bind, run_pure]
    at committed ⊢
  obtain ⟨_, persisted, -⟩ := map_eq_ok committed
  exact agrees_of_persist world persisted

end World

/-- A persisted document loads as its records, in their order and with the order of all keys,
exactly if no record has more than 126 containers inside each other, and as nothing otherwise; the
settings make no difference. -/
theorem Document.load_of_persist {F : Type} [FileSystem F] [LawfulFileSystem F] {world : World F}
    {path : String} {records : List Json} {settings : Settings}
    (keyed : ∀ record ∈ records, record.WellKeyed) (integral : ∀ record ∈ records, record.Integral)
    (persisted : (World.run (persist path records settings) world).1 = .ok ()) :
    let loaded := (World.run (load path) (World.run (persist path records settings) world).2).1
    (loaded = records ↔ ∀ record ∈ records, record.depth ≤ 126) ∧
    ((∃ record ∈ records, 126 < record.depth) → loaded = []) ∧
    ∀ (other : World F) (again : String) (changed : Settings),
      (World.run (persist again records changed) other).1 = .ok () →
      (World.run (load again) (World.run (persist again records changed) other).2).1 = loaded := by
  have loads (other : World F) (again : String) (changed : Settings)
      (done : (World.run (persist again records changed) other).1 = .ok ()) :
      (World.run (load again) (World.run (persist again records changed) other).2).1 =
        decode (encode records changed) := by
    have agrees : World.Agrees (World.run (persist again records changed) other).2
        ⟨again, records, changed, .shared⟩ := World.read_of_persist other done
    exact World.load_of_agrees agrees
  obtain ⟨same, -, deep⟩ := decode_encode_eq_iff keyed settings
  have lasting : (∀ record ∈ records, record.Lasting) ↔ ∀ record ∈ records, record.depth ≤ 126 :=
    forall₂_congr fun record present => (integral record present).lasting_iff
  refine ⟨?_, ?_, ?_⟩
  · rw [loads world path settings persisted, same, lasting]
  · rw [loads world path settings persisted]
    exact deep
  · intro other again changed done
    rw [loads world path settings persisted, loads other again changed done, decode_encode,
      decode_encode]

theorem Document.load_of_persist_two :
    let records : List Json := [.object [("b", .number (.integer 1 (by decide))),
      ("a", .array [.object [], .string "\n"])], .null]
    let persisted := World.run (persist "records.json" records .default) (World.start Disk.empty)
    (World.run (load "records.json") persisted.2).1 = records := by
  intro records persisted
  have keyed : ∀ record ∈ records, record.WellKeyed := by
    simp [records, Json.WellKeyed, Members.keys]
  have integral : ∀ record ∈ records, record.Integral := by
    simp [records, Json.Integral]
  have done : persisted.1 = .ok () := by decide +kernel
  exact (load_of_persist keyed integral done).1.2 (by decide)

end RecordStore
