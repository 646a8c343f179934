import RuleReview.Data

/-! Rules about C#. -/

namespace RuleReview.Rule.Builtin

def csharp : Data := .object [
  ("version", .text "2.0"),
  ("csharp_security_rules", .object [
    ("title", .text "C# Security"),
    ("severity", .text "HIGH"),
    ("patterns", .list [
      .object [
        ("pattern", .text "new\\s+SqlCommand\\s*\\([^)]*\\+"),
        ("language", .text "csharp"),
        ("category", .text "security"),
        ("description", .text "SqlCommand text built by concatenation (possible SQL injection)"),
        ("example", .text "new SqlCommand(\"SELECT * FROM Users WHERE Id = \" + id, conn)"),
        ("fix", .text "Use SqlParameter / AddWithValue")],
      .object [
        ("pattern", .text "\\$\"\\s*(?:SELECT|INSERT|UPDATE|DELETE)\\b[^\"]*\\\x7b"),
        ("language", .text "csharp"),
        ("category", .text "security"),
        ("description", .text "SQL statement built with string interpolation (possible SQL injection)"),
        ("fix", .text "Use parameterized commands or FromSqlInterpolated")],
      .object [
        ("pattern", .text "\\bBinaryFormatter\\b"),
        ("language", .text "csharp"),
        ("category", .text "security"),
        ("description", .text "BinaryFormatter deserialization is unsafe"),
        ("fix", .text "Use System.Text.Json")],
      .object [
        ("pattern", .text "Process\\.Start\\s*\\([^)]*\\+"),
        ("language", .text "csharp"),
        ("category", .text "security"),
        ("description", .text "Process started with a concatenated command line"),
        ("fix", .text "Validate input and use ProcessStartInfo.ArgumentList")],
      .object [
        ("pattern", .text "\\b(?:MD5|SHA1)\\.Create\\s*\\("),
        ("language", .text "csharp"),
        ("category", .text "security"),
        ("description", .text "Weak hash algorithm"),
        ("fix", .text "Use SHA256 or a password hasher")]])]),
  ("csharp_quality_rules", .object [
    ("title", .text "C# Quality"),
    ("severity", .text "MEDIUM"),
    ("patterns", .list [
      .object [
        ("pattern", .text "catch\\s*\\(\\s*Exception(?:\\s+\\w+)?\\s*\\)\\s*\\\x7b\\s*\\\x7d"),
        ("language", .text "csharp"),
        ("category", .text "reliability"),
        ("description", .text "Empty catch of Exception swallows every error"),
        ("fix", .text "Log the exception or catch a specific type")],
      .object [
        ("pattern", .text "\\basync\\s+void\\b"),
        ("language", .text "csharp"),
        ("category", .text "reliability"),
        ("description", .text "async void methods cannot be awaited and crash on exceptions"),
        ("fix", .text "Return Task")],
      .object [
        ("pattern", .text "\\.Result\\b|\\.Wait\\s*\\(\\s*\\)"),
        ("language", .text "csharp"),
        ("category", .text "performance"),
        ("description", .text "Blocking on a task can deadlock"),
        ("fix", .text "Await the task")],
      .object [
        ("pattern", .text "Console\\.WriteLine\\s*\\("),
        ("language", .text "csharp"),
        ("category", .text "style"),
        ("description", .text "Console output used for diagnostics"),
        ("fix", .text "Use ILogger")]])]),
  ("csharp_modern_features", .object [
    ("title", .text "C# Modern Features"),
    ("severity", .text "LOW"),
    ("patterns", .list [
      .object [
        ("pattern", .text "String\\.Format\\s*\\("),
        ("language", .text "csharp"),
        ("category", .text "modernization"),
        ("description", .text "String.Format can be replaced by interpolation"),
        ("fix", .text "Use $\"...\x7bvalue\x7d...\"")],
      .object [
        ("pattern", .text "!=\\s*null\\s*\\?\\s*\\w+(?:\\.\\w+)+\\s*:\\s*null"),
        ("language", .text "csharp"),
        ("category", .text "modernization"),
        ("description", .text "Null check can use the null-conditional operator"),
        ("fix", .text "Use ?.")],
      .object [
        ("pattern", .text "\\bnew\\s+List<\\w+>\\s*\\(\\s*\\)\\s*;"),
        ("language", .text "csharp"),
        ("category", .text "modernization"),
        ("description", .text "Collection can use a target-typed new or collection expression"),
        ("fix", .text "Use `new()` or `[]`")]])]),
  ("csharp_web_security", .object [
    ("title", .text "C# Web Security"),
    ("severity", .text "HIGH"),
    ("patterns", .list [
      .object [
        ("pattern", .text "Request\\.(?:QueryString|Form)\\[[^\\]]+\\]"),
        ("language", .text "csharp"),
        ("category", .text "security"),
        ("description", .text "Raw request value used without validation"),
        ("fix", .text "Bind to a validated model")],
      .object [
        ("pattern", .text "AllowAnyOrigin\\s*\\(\\s*\\)"),
        ("language", .text "csharp"),
        ("category", .text "security"),
        ("description", .text "CORS policy allows any origin"),
        ("fix", .text "Use WithOrigins() with trusted hosts")],
      .object [
        ("pattern", .text "HttpOnly\\s*=\\s*false|Secure\\s*=\\s*false"),
        ("language", .text "csharp"),
        ("category", .text "security"),
        ("description", .text "Cookie is missing HttpOnly or Secure"),
        ("fix", .text "Set HttpOnly and Secure to true")]])])]

end RuleReview.Rule.Builtin
