import RecordStore.Condition.Encoding
import RecordStore.Main
import RecordStore.Storage.Disk
import RecordStore.Proofs.Reading
import RecordStore.Proofs.Strings
import RecordStore.Proofs.Numerals
import RecordStore.Proofs.NumberText
import RecordStore.Proofs.Echo
import RecordStore.Proofs.Doubles
import RecordStore.Proofs.Literals
import RecordStore.Proofs.Trimming
import RecordStore.Proofs.Occurrences
import RecordStore.Proofs.Octets
import RecordStore.Proofs.ConditionText
import RecordStore.Proofs.Spelling
import RecordStore.Proofs.Splitting
import RecordStore.Proofs.Joining
import RecordStore.Proofs.Parsing
import RecordStore.Proofs.Leading
import RecordStore.Proofs.Lines
import RecordStore.Proofs.Grammar
import RecordStore.Proofs.Agreement
import RecordStore.Proofs.DistinctKeys
import RecordStore.Proofs.Durability
import RecordStore.Proofs.Chains
import RecordStore.Proofs.Preview
import RecordStore.Proofs.Scope
import RecordStore.Proofs.Persisting
import RecordStore.Proofs.Routes
import RecordStore.Proofs.Runs
import RecordStore.Proofs.InputLines
import RecordStore.Proofs.Modes
import RecordStore.Proofs.NumberReading
import RecordStore.Proofs.Exactness
import RecordStore.Proofs.NumeralParts
import RecordStore.Proofs.NumeralValues
import RecordStore.Proofs.Finding
import RecordStore.Proofs.Patching
import RecordStore.Proofs.Assignments
import RecordStore.Proofs.Untouched
import RecordStore.Proofs.ObjectRecords
import RecordStore.Proofs.Replies
import RecordStore.Proofs.CacheEntries
import RecordStore.Proofs.Alike
import RecordStore.Proofs.Appearance
import RecordStore.Proofs.Turns
import RecordStore.Proofs.Repetition
import RecordStore.Proofs.Independence
import RecordStore.Proofs.Completeness
import RecordStore.Proofs.Comparison
import RecordStore.Proofs.Rounding
import RecordStore.Proofs.IntegerConditions
import RecordStore.Proofs.NumberGrammar
import RecordStore.Proofs.Passing
import RecordStore.Proofs.Distinctness
import RecordStore.Proofs.Decoding
import RecordStore.Proofs.Boundaries
