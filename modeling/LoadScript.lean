import LoadScript.Run
import LoadScript.Main
import LoadScript.Proofs.Ecma.Token
import LoadScript.Proofs.Ecma.Spelling
import LoadScript.Proofs.Ecma.Expr
import LoadScript.Proofs.Ecma.Literal
import LoadScript.Proofs.Ecma.Statement
import LoadScript.Proofs.Marker
import LoadScript.Proofs.Interpolation
import LoadScript.Proofs.LineBreak
import LoadScript.Proofs.Object
import LoadScript.Proofs.Call
import LoadScript.Proofs.Number.Rounding
import LoadScript.Proofs.Number.Numeral
import LoadScript.Proofs.Number.ReadBack
import LoadScript.Proofs.Value
import LoadScript.Proofs.Scope
import LoadScript.Proofs.Tokens
import LoadScript.Proofs.Content
import LoadScript.Proofs.Shape
import LoadScript.Proofs.LineFeed
import LoadScript.Proofs.Statements
import LoadScript.Proofs.Outline
import LoadScript.Proofs.Failure
import LoadScript.Proofs.Request
import LoadScript.Proofs.Walk
import LoadScript.Proofs.Stages
import LoadScript.Proofs.Fields
import LoadScript.Proofs.Ecma.Initialiser
import LoadScript.Proofs.Evaluation
import LoadScript.Proofs.Listing
import LoadScript.Proofs.Erasure
import LoadScript.Proofs.Files
import LoadScript.Proofs.Session
import LoadScript.Proofs.OutputOption
import LoadScript.Proofs.Repeat
import LoadScript.Proofs.Segmentation
import LoadScript.Proofs.UrlText
import LoadScript.Proofs.Respelling
import LoadScript.Proofs.Ecma.Mention
import LoadScript.Proofs.Bindings
import LoadScript.Proofs.Declaration
import LoadScript.Proofs.Record
import LoadScript.Proofs.VariableFile
import LoadScript.Proofs.VariableList
import LoadScript.Proofs.Supply
import LoadScript.Proofs.Number.Token
import LoadScript.Proofs.Number.Kept
import LoadScript.Proofs.NumberText
import LoadScript.Proofs.Composition
import LoadScript.Proofs.Layout
import LoadScript.Proofs.Execution
import LoadScript.Proofs.Arguments
import LoadScript.Proofs.LogLine
import LoadScript.Proofs.Logging
import LoadScript.Proofs.Rearrangement
import LoadScript.Proofs.MemberOrder
import LoadScript.Proofs.Ecma.LiteralReader
