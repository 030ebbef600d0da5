import ChessDrawing.Document.Session
import ChessDrawing.Proofs.Number.Arithmetic
import ChessDrawing.Proofs.Number.Near
import ChessDrawing.Proofs.Number.Length
import ChessDrawing.Proofs.Number.WordDecimal
import ChessDrawing.Proofs.Number.Twice
import ChessDrawing.Proofs.Number.Coordinate
import ChessDrawing.Proofs.Board.Grammar
import ChessDrawing.Proofs.Board.Canonical
import ChessDrawing.Proofs.Board.Name
import ChessDrawing.Proofs.Board.Cover
import ChessDrawing.Proofs.Board.FirstFault
import ChessDrawing.Proofs.Board.Naming
import ChessDrawing.Proofs.Script.Meaning
import ChessDrawing.Proofs.Script.Source
import ChessDrawing.Proofs.Script.Words
import ChessDrawing.Proofs.Script.LineBreak
import ChessDrawing.Proofs.Settings.Store
import ChessDrawing.Proofs.Settings.Run
import ChessDrawing.Proofs.Settings.Normal
import ChessDrawing.Proofs.Settings.Faults
import ChessDrawing.Proofs.Drawing.Marks
import ChessDrawing.Proofs.Drawing.FirstFault
import ChessDrawing.Proofs.Drawing.Shapes
import ChessDrawing.Proofs.Drawing.HalfTurn
import ChessDrawing.Proofs.Drawing.Faithful
import ChessDrawing.Proofs.Drawing.Geometry
import ChessDrawing.Proofs.Drawing.Run
import ChessDrawing.Proofs.Drawing.Complete
import ChessDrawing.Proofs.Drawing.Color
import ChessDrawing.Proofs.Document.Step
import ChessDrawing.Proofs.Document.Run
import ChessDrawing.Proofs.Document.Isolation
import ChessDrawing.Proofs.Document.Sharing
import ChessDrawing.Proofs.Document.TypedWidth
