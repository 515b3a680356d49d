import ShareLedger.Main
import ShareLedger.Screen.Interface
import ShareLedger.Proofs.BookSum
import ShareLedger.Proofs.Exactness
import ShareLedger.Proofs.Funds
import ShareLedger.Proofs.Shares
import ShareLedger.Proofs.Log
import ShareLedger.Proofs.Sitting
import ShareLedger.Proofs.Numerals
import ShareLedger.Proofs.Entry
import ShareLedger.Proofs.Replay
import ShareLedger.Proofs.Balance
import ShareLedger.Proofs.Closing
import ShareLedger.Proofs.LastDividend
import ShareLedger.Proofs.Undo
import ShareLedger.Proofs.Request
import ShareLedger.Proofs.StoreFailure
import ShareLedger.Proofs.Written
import ShareLedger.Proofs.UpToDate
import ShareLedger.Proofs.Isolation
import ShareLedger.Proofs.FileStore
import ShareLedger.Proofs.Decoding
import ShareLedger.Proofs.Commuting
import ShareLedger.Proofs.Text.Lines
import ShareLedger.Proofs.Conversation
import ShareLedger.Proofs.FrontEnds
import ShareLedger.Proofs.Mirroring
import ShareLedger.Proofs.HalfDividend
import ShareLedger.Proofs.NamedStart
import ShareLedger.Proofs.Text.Folding
import ShareLedger.Proofs.Addressing
import ShareLedger.Proofs.Parties
import ShareLedger.Proofs.Incomes
import ShareLedger.Proofs.Text.Width
import ShareLedger.Proofs.Worth
import ShareLedger.Proofs.TableDrawing
import ShareLedger.Proofs.StatusLines
import ShareLedger.Proofs.Editing
import ShareLedger.Proofs.Browsing
import ShareLedger.Proofs.Spelling
import ShareLedger.Proofs.ScrollView
import ShareLedger.Proofs.CursorColumn
import ShareLedger.Proofs.Naming
