import UsingAdvisor.Directive
import UsingAdvisor.Document.Edit

/-!
# Inserting directives

The edit that imports a namespace into a document: a new line below the document's last directive at
the margin, or at its top, ended as the document ends its lines.
-/

namespace UsingAdvisor.Advice

/-- The edit that puts a text at the start of a line. -/
def insertAtLine (line : Nat) (newText : Text) : Document.Edit :=
  ⟨⟨⟨line, 0⟩, ⟨line, 0⟩⟩, newText⟩

/-- The edit that imports a namespace into a document. -/
def insertion (document target : Text) : Document.Edit :=
  insertAtLine (Directive.insertionLine document)
    (Directive.write target (Text.lineEnding document).text)

end UsingAdvisor.Advice
