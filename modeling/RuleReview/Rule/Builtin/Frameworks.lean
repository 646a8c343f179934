import RuleReview.Data

/-! Rules about frameworks, one category per framework, and about databases. -/

namespace RuleReview.Rule.Builtin

/-- Rules about frameworks, one category per framework, and about databases. -/
def frameworks : Data := .object [
  ("version", .text "2.0"),
  ("react", .object [
    ("title", .text "React"),
    ("severity", .text "MEDIUM"),
    ("patterns", .list [
      .object [
        ("pattern", .text "dangerouslySetInnerHTML"),
        ("language", .list [.text "javascript", .text "typescript"]),
        ("category", .text "security"),
        ("description", .text "dangerouslySetInnerHTML can introduce cross-site scripting"),
        ("fix", .text "Render text through JSX or sanitize with DOMPurify")],
      .object [
        ("pattern", .text "\\.map\\s*\\([^)]*=>\\s*<\\w+(?![^>]*\\bkey=)[^>]*>"),
        ("language", .list [.text "javascript", .text "typescript"]),
        ("category", .text "performance"),
        ("description", .text "List items rendered without a `key` prop"),
        ("fix", .text "Give every rendered item a stable key")],
      .object [
        ("pattern", .text "useEffect\\s*\\(\\s*(?:async\\s*)?\\(\\)\\s*=>\\s*\\\x7b[^\x7d]*\\\x7d\\s*\\)"),
        ("language", .list [.text "javascript", .text "typescript"]),
        ("category", .text "performance"),
        ("description", .text "useEffect without a dependency array runs after every render"),
        ("fix", .text "Pass a dependency array")],
      .object [
        ("pattern", .text "this\\.state\\.\\w+\\s*=(?!=)"),
        ("language", .list [.text "javascript", .text "typescript"]),
        ("category", .text "reliability"),
        ("description", .text "State mutated directly"),
        ("fix", .text "Use setState or a state hook setter")]])]),
  ("django", .object [
    ("title", .text "Django"),
    ("severity", .text "HIGH"),
    ("patterns", .list [
      .object [
        ("pattern", .text "\\.raw\\s*\\(\\s*f?[\"'][^\"']*(?:%|\\\x7b)"),
        ("language", .text "python"),
        ("category", .text "security"),
        ("description", .text "Raw SQL built with string formatting"),
        ("fix", .text "Pass params to raw() instead of formatting the query")],
      .object [
        ("pattern", .text "@csrf_exempt"),
        ("language", .text "python"),
        ("category", .text "security"),
        ("description", .text "CSRF protection disabled for a view"),
        ("fix", .text "Keep CSRF protection and send the token from the client")],
      .object [
        ("pattern", .text "^\\s*DEBUG\\s*=\\s*True"),
        ("language", .text "python"),
        ("category", .text "security"),
        ("description", .text "DEBUG enabled in settings"),
        ("fix", .text "Read DEBUG from the environment and disable it in production")],
      .object [
        ("pattern", .text "\\bmark_safe\\s*\\("),
        ("language", .text "python"),
        ("category", .text "security"),
        ("description", .text "mark_safe disables auto-escaping"),
        ("fix", .text "Use format_html()")]])]),
  ("express", .object [
    ("title", .text "Express"),
    ("severity", .text "MEDIUM"),
    ("patterns", .list [
      .object [
        ("pattern", .text "app\\.use\\s*\\(\\s*cors\\s*\\(\\s*\\)\\s*\\)"),
        ("language", .list [.text "javascript", .text "typescript"]),
        ("category", .text "security"),
        ("description", .text "CORS enabled for every origin"),
        ("fix", .text "Restrict `origin` to trusted hosts")],
      .object [
        ("pattern", .text "app\\.listen\\s*\\(\\s*\\d+"),
        ("language", .list [.text "javascript", .text "typescript"]),
        ("category", .text "maintainability"),
        ("description", .text "Port is hard-coded"),
        ("fix", .text "Read the port from process.env.PORT")],
      .object [
        ("pattern", .text "res\\.redirect\\s*\\([^)]*req\\.(?:query|params|body)"),
        ("language", .list [.text "javascript", .text "typescript"]),
        ("category", .text "security"),
        ("description", .text "Open redirect from request data"),
        ("fix", .text "Redirect only to an allow-listed set of paths")]])]),
  ("spring", .object [
    ("title", .text "Spring"),
    ("severity", .text "MEDIUM"),
    ("patterns", .list [
      .object [
        ("pattern", .text "@Autowired\\s+(?:private|protected|public)?\\s*\\w+"),
        ("language", .text "java"),
        ("category", .text "maintainability"),
        ("description", .text "Field injection makes classes hard to test"),
        ("fix", .text "Use constructor injection")],
      .object [
        ("pattern", .text "@CrossOrigin\\s*(?:\\(\\s*(?:origins\\s*=\\s*)?\"\\*\"\\s*\\))?\\s*$"),
        ("language", .text "java"),
        ("category", .text "security"),
        ("description", .text "Cross-origin requests allowed from any origin"),
        ("fix", .text "List the allowed origins explicitly")],
      .object [
        ("pattern", .text "createQuery\\s*\\([^)]*\\+"),
        ("language", .text "java"),
        ("category", .text "security"),
        ("description", .text "JPQL query built by concatenation"),
        ("fix", .text "Use named parameters")]])]),
  ("csharp-web", .object [
    ("title", .text "ASP.NET"),
    ("severity", .text "MEDIUM"),
    ("patterns", .list [
      .object [
        ("pattern", .text "\\[AllowAnonymous\\]"),
        ("language", .text "csharp"),
        ("category", .text "security"),
        ("description", .text "Endpoint allows anonymous access"),
        ("fix", .text "Confirm the endpoint is meant to be public")],
      .object [
        ("pattern", .text "\\[HttpPost\\](?![^\\n]*ValidateAntiForgeryToken)"),
        ("language", .text "csharp"),
        ("category", .text "security"),
        ("description", .text "POST action; check that anti-forgery validation is applied"),
        ("fix", .text "Add [ValidateAntiForgeryToken] or a global filter")],
      .object [
        ("pattern", .text "Html\\.Raw\\s*\\("),
        ("language", .text "csharp"),
        ("category", .text "security"),
        ("description", .text "Html.Raw writes unencoded markup"),
        ("fix", .text "Let Razor encode the value")]])]),
  ("database_patterns", .object [
    ("title", .text "Database Access"),
    ("severity", .text "HIGH"),
    ("patterns", .list [
      .object [
        ("pattern", .text "SELECT\\s+\\*\\s+FROM"),
        ("language", .text "all"),
        ("category", .text "performance"),
        ("description", .text "SELECT * fetches every column"),
        ("fix", .text "Select only the columns you need")],
      .object [
        ("pattern", .text "\\bfor\\b.*\\b(?:await\\s+)?\\w+\\.(?:query|execute|findOne|find)\\s*\\("),
        ("language", .text "all"),
        ("category", .text "performance"),
        ("description", .text "Query issued inside a loop (N+1 pattern)"),
        ("fix", .text "Batch the lookups into one query")],
      .object [
        ("pattern", .text "\\b(?:DELETE\\s+FROM|UPDATE)\\s+\\w+\\s*(?:SET\\s+[^;\"']*)?[\"';]\\s*$"),
        ("language", .text "all"),
        ("category", .text "reliability"),
        ("description", .text "UPDATE/DELETE without a WHERE clause"),
        ("fix", .text "Add a WHERE clause")],
      .object [
        ("pattern", .text "\\.objects\\.all\\s*\\(\\s*\\)"),
        ("language", .text "python"),
        ("category", .text "performance"),
        ("description", .text "Unbounded queryset"),
        ("fix", .text "Filter or paginate the queryset")]])])]

end RuleReview.Rule.Builtin
