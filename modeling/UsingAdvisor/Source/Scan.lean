import UsingAdvisor.Source.Block
import UsingAdvisor.Source.Declaration

/-!
# Symbols of a source text

The symbols that a source file contributes: every type declared inside one of its namespace blocks.
The text is read without its byte-order mark and without carriage returns, so a file gives the same
symbols whatever its line endings.
-/

namespace UsingAdvisor.Source

/-- The text without its byte-order mark and without carriage returns. -/
def normalize (text : Text) : Text :=
  (Text.stripMark text).filter (· != '\r')

/-- The symbols that a block declares, in order. -/
def Block.symbols (block : Block) : List Symbol :=
  (declarations block.body).map fun declaration =>
    ⟨declaration.name, block.name, declaration.kind⟩

/-- The symbols of a source text, in order, with repetitions. -/
def symbols (text : Text) : List Symbol :=
  (blocks (normalize text)).flatMap Block.symbols

end UsingAdvisor.Source
