import Dramaturgy.Inspection
import Dramaturgy.Json.Reader
import Dramaturgy.Main
import Dramaturgy.Proofs.Floor
import Dramaturgy.Script.Json
import Dramaturgy.Proofs.WellFormed
import Dramaturgy.Proofs.Operation
import Dramaturgy.Proofs.Independence
import Dramaturgy.Proofs.Containment
import Dramaturgy.Proofs.Drawing
import Dramaturgy.Proofs.Growth
import Dramaturgy.Proofs.Ignored
import Dramaturgy.Proofs.Document
import Dramaturgy.Proofs.DrawnLines
import Dramaturgy.Proofs.Replay
import Dramaturgy.Proofs.Warning
import Dramaturgy.Proofs.Elements
import Dramaturgy.Proofs.Heading
import Dramaturgy.Proofs.Spelling
import Dramaturgy.Proofs.Recast
import Dramaturgy.Proofs.Speech
import Dramaturgy.Proofs.Cast
import Dramaturgy.Proofs.Dialogue
import Dramaturgy.Proofs.Character
import Dramaturgy.Proofs.Ledger
import Dramaturgy.Proofs.Register
import Dramaturgy.Proofs.Form
import Dramaturgy.Proofs.Label
