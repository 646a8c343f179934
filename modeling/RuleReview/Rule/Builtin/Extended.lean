import RuleReview.Data

/-! Rules about injection, weak cryptography, resources and leftovers. -/

namespace RuleReview.Rule.Builtin

/-- Rules about injection, weak cryptography, resources and leftovers. -/
def extended : Data := .object [
  ("version", .text "2.0"),
  ("security_rules_extended", .object [
    ("title", .text "Extended Security"),
    ("severity", .text "HIGH"),
    ("sql_injection", .object [
      ("title", .text "SQL Injection"),
      ("severity", .text "CRITICAL"),
      ("patterns", .list [
        .object [
          ("pattern", .text "(SELECT|INSERT|UPDATE|DELETE)\\b[^\"'\\n]*[\"']\\s*\\+"),
          ("language", .list [.text "javascript", .text "typescript", .text "java", .text "csharp", .text "php"]),
          ("category", .text "security"),
          ("description", .text "SQL statement built by string concatenation (possible SQL injection)"),
          ("example", .text "\"SELECT * FROM users WHERE id = \" + req.params.id"),
          ("fix", .text "Use parameterized queries or prepared statements")],
        .object [
          ("pattern", .text "`\\s*(SELECT|INSERT|UPDATE|DELETE)\\b[^`]*\\$\\\x7b"),
          ("language", .list [.text "javascript", .text "typescript"]),
          ("category", .text "security"),
          ("description", .text "SQL statement built with a template literal (possible SQL injection)"),
          ("fix", .text "Pass values as query parameters")],
        .object [
          ("pattern", .text "f[\"'](SELECT|INSERT|UPDATE|DELETE)\\b[^\"']*\\\x7b"),
          ("language", .text "python"),
          ("category", .text "security"),
          ("description", .text "SQL statement built with an f-string (possible SQL injection)"),
          ("fix", .text "Use cursor.execute(sql, params)")],
        .object [
          ("pattern", .text "\\.execute\\s*\\(\\s*[\"'][^\"']*%s?[\"']\\s*%"),
          ("language", .text "python"),
          ("category", .text "security"),
          ("description", .text "SQL statement formatted with % before execution"),
          ("fix", .text "Pass parameters as the second argument to execute()")]])]),
    ("xss", .object [
      ("title", .text "Cross-Site Scripting"),
      ("severity", .text "HIGH"),
      ("patterns", .list [
        .object [
          ("pattern", .text "\\.(?:innerHTML|outerHTML)\\s*\\+?=\\s*[^;]*(?:req\\.|params|query|input|location)"),
          ("language", .list [.text "javascript", .text "typescript"]),
          ("category", .text "security"),
          ("description", .text "Untrusted input written into HTML"),
          ("fix", .text "Escape output or use textContent")],
        .object [
          ("pattern", .text "res\\.send\\s*\\([^)]*req\\.(?:query|params|body)"),
          ("language", .list [.text "javascript", .text "typescript"]),
          ("category", .text "security"),
          ("description", .text "Request data echoed into the response without encoding"),
          ("fix", .text "Encode output or render through a template engine")]])]),
    ("command_injection", .object [
      ("title", .text "Command Injection"),
      ("severity", .text "CRITICAL"),
      ("patterns", .list [
        .object [
          ("pattern", .text "\\b(?:exec|execSync|spawn)\\s*\\([^)]*\\+"),
          ("language", .list [.text "javascript", .text "typescript"]),
          ("category", .text "security"),
          ("description", .text "Shell command built from concatenated input"),
          ("fix", .text "Use execFile/spawn with an argument array")],
        .object [
          ("pattern", .text "\\bos\\.system\\s*\\(|subprocess\\.\\w+\\([^)]*shell\\s*=\\s*True"),
          ("language", .text "python"),
          ("category", .text "security"),
          ("description", .text "Command executed through the shell"),
          ("fix", .text "Call subprocess.run with a list of arguments and shell=False")]])]),
    ("insecure_crypto", .object [
      ("title", .text "Weak Cryptography"),
      ("severity", .text "HIGH"),
      ("patterns", .list [
        .object [
          ("pattern", .text "\\b(?:md5|sha1)\\b"),
          ("language", .text "all"),
          ("category", .text "security"),
          ("description", .text "Weak hash algorithm"),
          ("fix", .text "Use SHA-256 or a password hash such as bcrypt/argon2")],
        .object [
          ("pattern", .text "Math\\.random\\s*\\(\\s*\\)"),
          ("language", .list [.text "javascript", .text "typescript"]),
          ("category", .text "security"),
          ("description", .text "Math.random() is not cryptographically secure"),
          ("fix", .text "Use crypto.getRandomValues() or crypto.randomBytes()")]])]),
    ("insecure_deserialization", .object [
      ("title", .text "Insecure Deserialization"),
      ("severity", .text "HIGH"),
      ("patterns", .list [
        .object [
          ("pattern", .text "\\bpickle\\.loads?\\s*\\(|\\byaml\\.load\\s*\\((?![^)]*SafeLoader)"),
          ("language", .text "python"),
          ("category", .text "security"),
          ("description", .text "Deserializing untrusted data can execute code"),
          ("fix", .text "Use json or yaml.safe_load")]])])]),
  ("code_quality_extended", .object [
    ("title", .text "Extended Quality"),
    ("severity", .text "MEDIUM"),
    ("async_patterns", .object [
      ("title", .text "Async Usage"),
      ("patterns", .list [
        .object [
          ("pattern", .text "\\.forEach\\s*\\(\\s*async\\b"),
          ("language", .list [.text "javascript", .text "typescript"]),
          ("category", .text "reliability"),
          ("description", .text "forEach does not await async callbacks"),
          ("fix", .text "Use for...of with await or Promise.all")],
        .object [
          ("pattern", .text "new\\s+Promise\\s*\\(\\s*async\\b"),
          ("language", .list [.text "javascript", .text "typescript"]),
          ("category", .text "reliability"),
          ("description", .text "Async Promise executor hides thrown errors"),
          ("fix", .text "Remove the async executor and await inside a plain async function")],
        .object [
          ("pattern", .text "\\btime\\.sleep\\s*\\("),
          ("language", .text "python"),
          ("category", .text "performance"),
          ("description", .text "Blocking sleep (blocks the event loop in async code)"),
          ("fix", .text "Use await asyncio.sleep() in coroutines")]])]),
    ("resource_management", .object [
      ("title", .text "Resource Management"),
      ("patterns", .list [
        .object [
          ("pattern", .text "^\\s*\\w+\\s*=\\s*open\\s*\\("),
          ("language", .text "python"),
          ("category", .text "reliability"),
          ("description", .text "File opened without a context manager"),
          ("fix", .text "Use `with open(...) as f:`")],
        .object [
          ("pattern", .text "setInterval\\s*\\("),
          ("language", .list [.text "javascript", .text "typescript"]),
          ("category", .text "performance"),
          ("description", .text "Interval timer; make sure it is cleared"),
          ("fix", .text "Keep the handle and call clearInterval()")]])]),
    ("debugging_leftovers", .object [
      ("title", .text "Debugging Leftovers"),
      ("severity", .text "LOW"),
      ("patterns", .list [
        .object [
          ("pattern", .text "^\\s*debugger\\s*;?\\s*$"),
          ("language", .list [.text "javascript", .text "typescript"]),
          ("category", .text "style"),
          ("description", .text "debugger statement left in code"),
          ("fix", .text "Remove the debugger statement")],
        .object [
          ("pattern", .text "\\b(?:pdb|ipdb)\\.set_trace\\s*\\(|\\bbreakpoint\\s*\\(\\s*\\)"),
          ("language", .text "python"),
          ("category", .text "style"),
          ("description", .text "Debugger breakpoint left in code"),
          ("fix", .text "Remove the breakpoint")]])])]),
  ("language_specific_extended", .object [
    ("title", .text "Language Specific (Extended)"),
    ("typescript", .object [
      ("title", .text "TypeScript"),
      ("severity", .text "LOW"),
      ("patterns", .list [
        .object [
          ("pattern", .text ":\\s*any\\b"),
          ("language", .text "typescript"),
          ("category", .text "maintainability"),
          ("description", .text "`any` disables type checking"),
          ("fix", .text "Use a precise type or `unknown`")],
        .object [
          ("pattern", .text "@ts-ignore"),
          ("language", .text "typescript"),
          ("category", .text "maintainability"),
          ("description", .text "@ts-ignore suppresses type errors"),
          ("fix", .text "Fix the type error or use @ts-expect-error with a reason")],
        .object [
          ("pattern", .text "\\w!\\."),
          ("language", .text "typescript"),
          ("category", .text "reliability"),
          ("description", .text "Non-null assertion may hide undefined values"),
          ("fix", .text "Narrow the type with a check")]])]),
    ("php", .object [
      ("title", .text "PHP"),
      ("severity", .text "HIGH"),
      ("patterns", .list [
        .object [
          ("pattern", .text "\\bmysql_\\w+\\s*\\("),
          ("language", .text "php"),
          ("category", .text "security"),
          ("description", .text "Removed mysql_* API"),
          ("fix", .text "Use PDO with prepared statements")],
        .object [
          ("pattern", .text "\\$_(?:GET|POST|REQUEST)\\[[^\\]]+\\][^;]*(?:echo|print)|(?:echo|print)[^;]*\\$_(?:GET|POST|REQUEST)\\["),
          ("language", .text "php"),
          ("category", .text "security"),
          ("description", .text "Request parameter echoed without escaping"),
          ("fix", .text "Escape with htmlspecialchars()")]])]),
    ("go", .object [
      ("title", .text "Go"),
      ("severity", .text "MEDIUM"),
      ("patterns", .list [
        .object [
          ("pattern", .text "\\b_\\s*(?:,\\s*_\\s*)?=\\s*\\w+(?:\\.\\w+)*\\("),
          ("language", .text "go"),
          ("category", .text "reliability"),
          ("description", .text "Returned error is discarded"),
          ("fix", .text "Check the returned error")],
        .object [
          ("pattern", .text "\\bpanic\\s*\\("),
          ("language", .text "go"),
          ("category", .text "reliability"),
          ("description", .text "panic() used for error handling"),
          ("fix", .text "Return an error instead")]])])])]

end RuleReview.Rule.Builtin
