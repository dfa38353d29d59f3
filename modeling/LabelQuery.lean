import LabelQuery.Journal
import LabelQuery.Session
import LabelQuery.Source.Cursor
import LabelQuery.Wire
import LabelQuery.Proofs.NameCharacters
import LabelQuery.Proofs.Grammar
import LabelQuery.Proofs.GrammarComplete
import LabelQuery.Proofs.ScannerSteps
import LabelQuery.Proofs.GrammarSound
import LabelQuery.Proofs.Rendering
import LabelQuery.Proofs.RoundTrip
import LabelQuery.Proofs.NameDiagnosis
import LabelQuery.Proofs.Faults
import LabelQuery.Proofs.ValueLists
import LabelQuery.Proofs.Lookahead
import LabelQuery.Proofs.Verdicts
import LabelQuery.Proofs.LongestOperator
import LabelQuery.Proofs.Viability
import LabelQuery.Proofs.ListScans
import LabelQuery.Proofs.Concatenation
import LabelQuery.Proofs.Respacing
import LabelQuery.Proofs.Joins
import LabelQuery.Proofs.SpelledSessions
import LabelQuery.Proofs.ClausePlaces
import LabelQuery.Proofs.FaultPlaces
import LabelQuery.Proofs.JournalRecords
import LabelQuery.Proofs.Demands
import LabelQuery.Proofs.Messages
import LabelQuery.Proofs.CursorRuns
