import Lexical.Main
import Lexical.Cursor
import Lexical.Grammar.Read
import Lexical.Pass.Step
import Lexical.Proofs.Fault
import Lexical.Proofs.Lookahead
import Lexical.Proofs.Reading
import Lexical.Proofs.Placement
import Lexical.Proofs.Sentence
import Lexical.Proofs.LineBreak
import Lexical.Proofs.Diagnosis
import Lexical.Proofs.Spacing
import Lexical.Proofs.Lines
import Lexical.Proofs.Quotation
import Lexical.Proofs.Respelling.Basic
import Lexical.Proofs.Respelling.Reading
import Lexical.Proofs.Respelling.Findings
import Lexical.Proofs.Respelling.Lines
import Lexical.Proofs.Respelling.Outcome
import Lexical.Proofs.Settled
import Lexical.Proofs.Writing
import Lexical.Proofs.Listing
import Lexical.Proofs.Pass.Account
import Lexical.Proofs.Pass.Run
import Lexical.Proofs.Leading
import Lexical.Proofs.Trivia
import Lexical.Proofs.Enclosure
import Lexical.Proofs.Lookup
import Lexical.Proofs.WholeRun
import Lexical.Proofs.Clipping
import Lexical.Proofs.Forward
