import RuleReview.Path
import RuleReview.Text.Blank

/-! The languages that are told apart: their names, other names, and file extensions. -/

namespace RuleReview

/-- A language with its file extensions and its other names. -/
structure Language where
  name : String
  extensions : List String
  aliases : List String := []

namespace Language

/-- The language where nothing tells of another one. -/
def default : String := "javascript"

def known : List Language := [
  ⟨"javascript", [".js", ".jsx", ".mjs", ".cjs"], ["js", "node", "nodejs"]⟩,
  ⟨"typescript", [".ts", ".tsx"], ["ts"]⟩,
  ⟨"python", [".py"], ["py", "python3"]⟩,
  ⟨"java", [".java"], []⟩,
  ⟨"csharp", [".cs"], ["c#", "cs", "c-sharp", "dotnet"]⟩,
  ⟨"php", [".php"], []⟩,
  ⟨"go", [".go"], ["golang"]⟩,
  ⟨"rust", [".rs"], ["rs"]⟩,
  ⟨"ruby", [".rb"], ["rb"]⟩,
  ⟨"kotlin", [".kt", ".kts"], ["kt"]⟩,
  ⟨"cpp", [".cpp", ".cc", ".cxx", ".hpp"], ["c++"]⟩,
  ⟨"c", [".c", ".h"], []⟩]

def names : List String := known.map (·.name)

/-- The language with a name or another name. -/
def find? (key : String) : Option Language :=
  known.find? fun l => l.name == key || l.aliases.contains key

/-- A text in small letters without blanks around it. -/
def key (s : String) : String := Text.toLower (Text.strip s)

/-- The name of a language given in any case and by any of its names; the text in small
letters without blanks around it where no language has that name. -/
def normalize (s : String) : String :=
  match find? (key s) with
  | some l => l.name
  | none => key s

def isKnown (s : String) : Bool := names.contains (normalize s)

def allExtensions : List String := known.flatMap (·.extensions)

def ofPath? (p : Path) : Option String :=
  (known.find? (·.extensions.contains p.extension)).map (·.name)

/-- Whether files with the extension of a path are analyzed. -/
def isSupported (p : Path) : Bool := allExtensions.contains p.extension

end Language

end RuleReview
