import Recurrence.Main
import Recurrence.View.Json
import Recurrence.Proofs.Grammar
import Recurrence.Proofs.Moments
import Recurrence.Proofs.NormalForm
import Recurrence.Proofs.Reopen
import Recurrence.Proofs.Schedulable
import Recurrence.Proofs.Switch
import Recurrence.Proofs.Clamp
import Recurrence.Proofs.Transcript
import Recurrence.Proofs.SentenceWords
import Recurrence.Proofs.Unambiguous
import Recurrence.Proofs.JsonText
import Recurrence.Proofs.PrintedJson
import Recurrence.Proofs.EditText
import Recurrence.Proofs.RoundTrip
import Recurrence.Proofs.TranscriptText
import Recurrence.Proofs.JsonValue
import Recurrence.Proofs.TomlString
import Recurrence.Proofs.ShownConfig
import Recurrence.Proofs.EditGrammar
import Recurrence.Proofs.ExitCode
import Recurrence.Proofs.Independent
import Recurrence.Proofs.JsonMeaning
import Recurrence.Proofs.JsonMembers
import Recurrence.Proofs.DescriptorObject
import Recurrence.Proofs.ViewJson
