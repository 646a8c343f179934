import RuleReview.Data

/-! General rules about naming, structure, errors and style. -/

namespace RuleReview.Rule.Builtin

/-- General rules about naming, structure, errors and style. -/
def core : Data := .object [
  ("version", .text "2.0"),
  ("code_quality_rules", .object [
    ("title", .text "Code Quality"),
    ("naming_conventions", .object [
      ("title", .text "Naming Conventions"),
      ("severity", .text "LOW"),
      ("patterns", .list [
        .object [
          ("pattern", .text "\\b(?:var|let|const)\\s+(?-i:[a-z])\\s*="),
          ("language", .list [.text "javascript", .text "typescript"]),
          ("category", .text "naming"),
          ("description", .text "Single-letter variable name outside a loop counter"),
          ("example", .text "const x = getUser();"),
          ("fix", .text "Use a descriptive name such as `user`")],
        .object [
          ("pattern", .text "\\bdef\\s+(?-i:[a-z]+[A-Z])\\w*\\s*\\("),
          ("language", .text "python"),
          ("category", .text "naming"),
          ("description", .text "Function name uses camelCase instead of snake_case"),
          ("example", .text "def getUser():"),
          ("fix", .text "Rename to snake_case (`get_user`)")],
        .object [
          ("pattern", .text "\\bclass\\s+(?-i:[a-z])\\w*"),
          ("language", .list [.text "python", .text "java", .text "csharp", .text "typescript", .text "javascript", .text "php", .text "kotlin"]),
          ("category", .text "naming"),
          ("description", .text "Class name should start with an upper-case letter"),
          ("example", .text "class userService \x7b"),
          ("fix", .text "Use PascalCase for class names")],
        .object [
          ("pattern", .text "\\b(?:var|let|const)\\s+(?:data|temp|tmp|foo|bar|obj)\\d*\\s*="),
          ("language", .list [.text "javascript", .text "typescript"]),
          ("category", .text "naming"),
          ("description", .text "Generic placeholder variable name"),
          ("fix", .text "Name the variable after what it holds")]])]),
    ("function_complexity", .object [
      ("title", .text "Function Complexity"),
      ("severity", .text "MEDIUM"),
      ("patterns", .list [
        .object [
          ("pattern", .text "function\\s+\\w+\\s*\\(([^,)]*,)\x7b5,\x7d[^)]*\\)"),
          ("language", .list [.text "javascript", .text "typescript"]),
          ("category", .text "complexity"),
          ("description", .text "Function takes more than five parameters"),
          ("example", .text "function create(a, b, c, d, e, f) \x7b"),
          ("fix", .text "Group related parameters into an options object")],
        .object [
          ("pattern", .text "\\bdef\\s+\\w+\\s*\\(([^,)]*,)\x7b5,\x7d[^)]*\\)"),
          ("language", .text "python"),
          ("category", .text "complexity"),
          ("description", .text "Function takes more than five parameters"),
          ("fix", .text "Group related parameters into a dataclass")],
        .object [
          ("pattern", .text "^\\s\x7b24,\x7d\\S"),
          ("language", .text "all"),
          ("category", .text "complexity"),
          ("description", .text "Deeply indented line suggests excessive nesting"),
          ("fix", .text "Extract nested blocks into helper functions or use early returns")]])]),
    ("code_duplication", .object [
      ("title", .text "Code Duplication"),
      ("severity", .text "LOW"),
      ("patterns", .list [
        .object [
          ("pattern", .text "(\\b\\w+\\.\\w+\\([^)]*\\))\\s*;?\\s*\\1"),
          ("language", .text "all"),
          ("category", .text "duplication"),
          ("description", .text "The same call is repeated back to back on one line"),
          ("fix", .text "Store the result in a variable")]])]),
    ("error_handling", .object [
      ("title", .text "Error Handling"),
      ("severity", .text "HIGH"),
      ("patterns", .list [
        .object [
          ("pattern", .text "catch\\s*\\([^)]*\\)\\s*\\\x7b\\s*\\\x7d"),
          ("language", .list [.text "javascript", .text "typescript", .text "java", .text "csharp", .text "php", .text "kotlin"]),
          ("category", .text "reliability"),
          ("description", .text "Empty catch block swallows errors"),
          ("example", .text "try \x7b save(); \x7d catch (e) \x7b\x7d"),
          ("fix", .text "Log or rethrow the error")],
        .object [
          ("pattern", .text "^\\s*except\\s*:"),
          ("language", .text "python"),
          ("category", .text "reliability"),
          ("description", .text "Bare except catches every exception, including KeyboardInterrupt"),
          ("example", .text "except:"),
          ("fix", .text "Catch a specific exception class")],
        .object [
          ("pattern", .text "except\\s+\\w*(?:Exception)?\\s*(?:as\\s+\\w+)?\\s*:\\s*pass\\b"),
          ("language", .text "python"),
          ("category", .text "reliability"),
          ("description", .text "Exception is caught and silently ignored"),
          ("fix", .text "Handle or log the exception")],
        .object [
          ("pattern", .text "\\.then\\([^)]*\\)\\s*;\\s*$"),
          ("language", .list [.text "javascript", .text "typescript"]),
          ("category", .text "reliability"),
          ("description", .text "Promise chain has no rejection handler"),
          ("fix", .text "Add `.catch()` or use try/await")]])]),
    ("performance", .object [
      ("title", .text "Performance"),
      ("severity", .text "MEDIUM"),
      ("patterns", .list [
        .object [
          ("pattern", .text "for\\s*\\([^;]*;[^;]*\\.length\\s*;"),
          ("language", .list [.text "javascript", .text "typescript"]),
          ("category", .text "performance"),
          ("description", .text "Loop re-reads `.length` on every iteration"),
          ("fix", .text "Cache the length or use for...of")],
        .object [
          ("pattern", .text "document\\.getElementById\\([^)]*\\).*document\\.getElementById"),
          ("language", .list [.text "javascript", .text "typescript"]),
          ("category", .text "performance"),
          ("description", .text "Repeated DOM lookup on one line"),
          ("fix", .text "Look the element up once and reuse it")],
        .object [
          ("pattern", .text "\\+=\\s*['\"]"),
          ("language", .list [.text "javascript", .text "typescript", .text "python", .text "java", .text "csharp"]),
          ("category", .text "performance"),
          ("description", .text "String concatenation with += (slow inside loops)"),
          ("fix", .text "Collect parts and join them once")],
        .object [
          ("pattern", .text "for\\s+\\w+\\s+in\\s+range\\s*\\(\\s*len\\s*\\("),
          ("language", .text "python"),
          ("category", .text "performance"),
          ("description", .text "Iterating over indices with range(len(...))"),
          ("fix", .text "Iterate directly or use enumerate()")]])])]),
  ("best_practices", .object [
    ("title", .text "Best Practices"),
    ("security", .object [
      ("title", .text "Security"),
      ("severity", .text "HIGH"),
      ("patterns", .list [
        .object [
          ("pattern", .text "\\beval\\s*\\("),
          ("language", .list [.text "javascript", .text "typescript", .text "python", .text "php"]),
          ("category", .text "security"),
          ("description", .text "Use of eval() can execute attacker-controlled code"),
          ("example", .text "eval(userInput)"),
          ("fix", .text "Parse the input explicitly instead of evaluating it")],
        .object [
          ("pattern", .text "\\.innerHTML\\s*="),
          ("language", .list [.text "javascript", .text "typescript"]),
          ("category", .text "security"),
          ("description", .text "Assigning innerHTML can introduce cross-site scripting"),
          ("fix", .text "Use textContent or a sanitizer")],
        .object [
          ("pattern", .text "(?:password|passwd|secret|api_?key|token)\\s*[:=]\\s*['\"][^'\"]\x7b4,\x7d['\"]"),
          ("language", .text "all"),
          ("category", .text "security"),
          ("description", .text "Hard-coded credential"),
          ("example", .text "const password = \"hunter2\";"),
          ("fix", .text "Load secrets from the environment or a secret store")]])]),
    ("maintainability", .object [
      ("title", .text "Maintainability"),
      ("severity", .text "LOW"),
      ("patterns", .list [
        .object [
          ("pattern", .text "\\b(?:TODO|FIXME|HACK|XXX)\\b"),
          ("language", .text "all"),
          ("category", .text "maintainability"),
          ("description", .text "Unresolved work marker"),
          ("fix", .text "Resolve the note or track it in an issue")],
        .object [
          ("pattern", .text "[=<>!]=?\\s*\\d\x7b3,\x7d\\b"),
          ("language", .text "all"),
          ("category", .text "maintainability"),
          ("description", .text "Magic number in comparison or assignment"),
          ("fix", .text "Extract the value into a named constant")]])]),
    ("code_style", .object [
      ("title", .text "Code Style"),
      ("severity", .text "LOW"),
      ("patterns", .list [
        .object [
          ("pattern", .text "\\bvar\\s+\\w+"),
          ("language", .list [.text "javascript", .text "typescript"]),
          ("category", .text "style"),
          ("description", .text "`var` declaration has function scope"),
          ("example", .text "var count = 0;"),
          ("fix", .text "Use `let` or `const`")],
        .object [
          ("pattern", .text "[^=!]==[^=]"),
          ("language", .list [.text "javascript", .text "typescript"]),
          ("category", .text "style"),
          ("description", .text "Loose equality performs type coercion"),
          ("fix", .text "Use === for comparisons")],
        .object [
          ("pattern", .text "\\bconsole\\.log\\s*\\("),
          ("language", .list [.text "javascript", .text "typescript"]),
          ("category", .text "style"),
          ("description", .text "Debug logging left in code"),
          ("fix", .text "Remove it or use a logger")],
        .object [
          ("pattern", .text "^\\s*print\\s*\\("),
          ("language", .text "python"),
          ("category", .text "style"),
          ("description", .text "print() used for diagnostics"),
          ("fix", .text "Use the logging module")],
        .object [
          ("pattern", .text "\\S[ \\t]+$"),
          ("language", .text "all"),
          ("category", .text "style"),
          ("description", .text "Trailing whitespace"),
          ("fix", .text "Strip trailing whitespace")]])]),
    ("documentation", .object [
      ("title", .text "Documentation"),
      ("severity", .text "LOW"),
      ("patterns", .list [
        .object [
          ("pattern", .text "^export\\s+(?:default\\s+)?function\\s+\\w+"),
          ("language", .list [.text "javascript", .text "typescript"]),
          ("category", .text "documentation"),
          ("description", .text "Exported function; make sure it has a JSDoc comment"),
          ("fix", .text "Document parameters and return value with JSDoc")]])])]),
  ("language_specific", .object [
    ("title", .text "Language Specific"),
    ("javascript", .object [
      ("title", .text "JavaScript"),
      ("severity", .text "MEDIUM"),
      ("patterns", .list [
        .object [
          ("pattern", .text "\\bnew\\s+Array\\s*\\("),
          ("language", .list [.text "javascript", .text "typescript"]),
          ("category", .text "style"),
          ("description", .text "Array constructor has surprising single-argument behavior"),
          ("fix", .text "Use an array literal")],
        .object [
          ("pattern", .text "\\bdocument\\.write\\s*\\("),
          ("language", .list [.text "javascript", .text "typescript"]),
          ("category", .text "security"),
          ("description", .text "document.write can inject unescaped markup"),
          ("fix", .text "Build DOM nodes instead")]])]),
    ("python", .object [
      ("title", .text "Python"),
      ("severity", .text "MEDIUM"),
      ("patterns", .list [
        .object [
          ("pattern", .text "\\bdef\\s+\\w+\\s*\\([^)]*=\\s*(?:\\[\\]|\\\x7b\\\x7d|dict\\(\\)|list\\(\\))"),
          ("language", .text "python"),
          ("category", .text "reliability"),
          ("description", .text "Mutable default argument is shared between calls"),
          ("example", .text "def add(item, items=[]):"),
          ("fix", .text "Default to None and create the container inside the function")],
        .object [
          ("pattern", .text "^\\s*from\\s+\\S+\\s+import\\s+\\*"),
          ("language", .text "python"),
          ("category", .text "maintainability"),
          ("description", .text "Wildcard import hides where names come from"),
          ("fix", .text "Import the names you use explicitly")],
        .object [
          ("pattern", .text "==\\s*None\\b|!=\\s*None\\b"),
          ("language", .text "python"),
          ("category", .text "style"),
          ("description", .text "Comparison to None with == or !="),
          ("fix", .text "Use `is None` / `is not None`")]])]),
    ("java", .object [
      ("title", .text "Java"),
      ("severity", .text "MEDIUM"),
      ("patterns", .list [
        .object [
          ("pattern", .text "System\\.out\\.println\\s*\\("),
          ("language", .text "java"),
          ("category", .text "style"),
          ("description", .text "System.out used for logging"),
          ("fix", .text "Use a logging framework")],
        .object [
          ("pattern", .text "catch\\s*\\(\\s*(?:Exception|Throwable)\\s+\\w+\\s*\\)"),
          ("language", .text "java"),
          ("category", .text "reliability"),
          ("description", .text "Catching a generic Exception or Throwable"),
          ("fix", .text "Catch the specific exceptions you can handle")],
        .object [
          ("pattern", .text "\\.printStackTrace\\s*\\(\\s*\\)"),
          ("language", .text "java"),
          ("category", .text "reliability"),
          ("description", .text "printStackTrace() bypasses logging"),
          ("fix", .text "Log the exception instead")]])])])]

end RuleReview.Rule.Builtin
