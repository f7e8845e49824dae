import LoadScript.Input
import LoadScript.Script.Basic

/-!
# Converting a collection

The whole way from the files to the text of the script. Two data files are refused before any file
is read.
-/

namespace LoadScript

/-- The script of the collection under a path. -/
def convert (read : Reader) (path : String) (options : Options) : Traced String := do
  Traced.ofExcept options.check
  let collection ← read.collection path
  let sources ← read.sources collection options
  let script ← Script.ofTransactions collection.transactions sources
  let text := script.render
  Traced.report (.generated collection.transactions.length text.utf8ByteSize)
  pure text

end LoadScript
