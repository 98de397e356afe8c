import SlashCommand.Document.Yaml.Compose
import SlashCommand.Document.Yaml.Parts

/-!
# YAML documents

Reads a document in the YAML notation: its text is cut into tokens, the tokens are composed to
nodes, and the values of the nodes make the document.  A file holds one document, and an empty one
is null.
-/

namespace SlashCommand.Document.Yaml

/-- Reads a document. -/
def read (text : String) : Except Fault Document := do
  let (graph, root) ← compose text
  graph.document root

end SlashCommand.Document.Yaml
