import Statechart.Bench.Vocabulary
import Statechart.Document.Encodings

/-!
# Documents of bench contexts
-/
namespace Statechart.Bench.Context

/-- The document of a context. -/
def toDocument (context : Context) : Document :=
  .ofFields [("n", .ofInt64 context.n), ("m", .ofInt64 context.m),
    ("text", .ofString context.text), ("log", .list (context.log.map .ofString))]

/-- The context of a document; what it lacks is as usual. -/
def ofDocument? (document : Document) : Option Context := do
  let usual : Context := {}
  let fields ← document.fields? ["n", "m", "text", "log"]
  let n ← fields.defaulted "n" usual.n Document.integer?
  let m ← fields.defaulted "m" usual.m Document.integer?
  let text ← fields.defaulted "text" usual.text Document.string?
  let log ← fields.defaulted "log" usual.log (Document.list? Document.string?)
  return { n, m, text, log }

end Statechart.Bench.Context
