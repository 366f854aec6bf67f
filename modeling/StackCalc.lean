import StackCalc.Calc.Error
import StackCalc.Calc.Eval
import StackCalc.Calc.Scan
import StackCalc.Calc.Stack
import StackCalc.Calc.Text
import StackCalc.Calc.Token
import StackCalc.Cli.Help
import StackCalc.Cli.Mode
import StackCalc.Cli.Options
import StackCalc.Config.Basic
import StackCalc.Config.DateTime
import StackCalc.Config.Defaults
import StackCalc.Config.Document
import StackCalc.Config.Files
import StackCalc.Config.Layers
import StackCalc.Decimal.Binary64
import StackCalc.Decimal.Fixed
import StackCalc.Decimal.Literal
import StackCalc.Decimal.Notation
import StackCalc.Decimal.Shortest
import StackCalc.Edit.History
import StackCalc.Edit.Key
import StackCalc.Edit.Keymap
import StackCalc.Edit.LineBuffer
import StackCalc.Edit.Viewport
import StackCalc.Front.LineMode
import StackCalc.Front.Program
import StackCalc.Front.Terminal
import StackCalc.Main
import StackCalc.Screen.Draw
import StackCalc.Screen.Frame
import StackCalc.Screen.Input
import StackCalc.Screen.KeyCode
import StackCalc.Session
import StackCalc.Text.Blank
import StackCalc.Text.Control
import StackCalc.Text.Lower
import StackCalc.Text.Quoted
import StackCalc.Text.Utf8
import StackCalc.Word
import StackCalc.Proofs.Lexing
import StackCalc.Proofs.Expressions
import StackCalc.Proofs.LineInvariant
import StackCalc.Proofs.LineRefinement
import StackCalc.Proofs.StackFrame
import StackCalc.Proofs.Concatenation
import StackCalc.Proofs.HistoryWalk
import StackCalc.Proofs.LineView
import StackCalc.Proofs.FrontEnds
import StackCalc.Proofs.LexicalFaults
import StackCalc.Proofs.StackEffects
import StackCalc.Proofs.BindingOrder
import StackCalc.Proofs.Scrolling
import StackCalc.Proofs.StackStrip
import StackCalc.Proofs.ConfigLayers
import StackCalc.Proofs.ReadingProgress
