import Catena.Session
import Catena.Vocabulary
import Catena.Proofs.Cursor
import Catena.Proofs.Observation
import Catena.Proofs.Backtracking
import Catena.Proofs.Recovery
import Catena.Proofs.Move
import Catena.Proofs.Discipline
import Catena.Proofs.Isolation
import Catena.Proofs.Unforced
import Catena.Proofs.Lossless
import Catena.Proofs.Recognition
import Catena.Proofs.Blindness
import Catena.Proofs.Flattening
import Catena.Proofs.Safety
import Catena.Proofs.Resumption
import Catena.Proofs.Accumulation
import Catena.Proofs.Course
import Catena.Proofs.Termination
import Catena.Proofs.Laps
import Catena.Proofs.BackingOff
import Catena.Proofs.Candidates
import Catena.Proofs.Occurrence
import Catena.Proofs.ItemRuns
import Catena.Proofs.Absorption
import Catena.Proofs.Interception
import Catena.Proofs.Factoring
import Catena.Proofs.Neutrality
import Catena.Proofs.Association
import Catena.Proofs.Placeholders
import Catena.Proofs.Lines
import Catena.Proofs.Notes
import Catena.Proofs.Idleness
import Catena.Proofs.Commitment
import Catena.Proofs.Spelling
import Catena.Proofs.Coordinates
import Catena.Proofs.Detachment
