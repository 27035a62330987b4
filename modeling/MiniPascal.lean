import MiniPascal.Main
import MiniPascal.Binary64.Bits
import MiniPascal.Proofs.Agreement
import MiniPascal.Proofs.Bindings
import MiniPascal.Proofs.Drawing
import MiniPascal.Proofs.Integers
import MiniPascal.Proofs.Interleaving
import MiniPascal.Proofs.Nesting
import MiniPascal.Proofs.Parsing
import MiniPascal.Proofs.Printing
import MiniPascal.Proofs.Printing.Token
import MiniPascal.Proofs.Printing.Value
import MiniPascal.Proofs.Ranges
import MiniPascal.Proofs.Scanning
import MiniPascal.Proofs.Sequencing
import MiniPascal.Proofs.Sessions
import MiniPascal.Proofs.Spacing
import MiniPascal.Proofs.Stores
import MiniPascal.Proofs.Spelling
import MiniPascal.Proofs.Blocks
import MiniPascal.Proofs.Definite
import MiniPascal.Proofs.Footprint
import MiniPascal.Proofs.Drawing.Subtrees
import MiniPascal.Proofs.Kinds
import MiniPascal.Proofs.Lines
import MiniPascal.Proofs.Scanning.Places
import MiniPascal.Proofs.Walks
import MiniPascal.Proofs.Locations
import MiniPascal.Proofs.Folding
import MiniPascal.Proofs.Checkpoints
import MiniPascal.Proofs.Printing.Store
import MiniPascal.Proofs.DeepLines
import MiniPascal.Proofs.Folding.Capitals
import MiniPascal.Proofs.Transcripts
import MiniPascal.Proofs.Parsing.Bookkeeping
import MiniPascal.Proofs.Parsing.Unbounded
