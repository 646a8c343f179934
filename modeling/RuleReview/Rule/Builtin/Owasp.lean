import RuleReview.Data

/-! Rules about the ten numbered security risks. -/

namespace RuleReview.Rule.Builtin

/-- Rules about the ten numbered security risks. -/
def owasp : Data := .object [
  ("version", .text "2021"),
  ("A01_broken_access_control", .object [
    ("title", .text "A01 Broken Access Control"),
    ("severity", .text "HIGH"),
    ("cwe_mappings", .list [.text "CWE-284", .text "CWE-22", .text "CWE-639"]),
    ("patterns", .list [
      .object [
        ("pattern", .text "(?:readFile|readFileSync|createReadStream|sendFile)\\s*\\([^)]*req\\.(?:query|params|body)"),
        ("language", .list [.text "javascript", .text "typescript"]),
        ("category", .text "security"),
        ("description", .text "File path taken from the request (path traversal)"),
        ("fix", .text "Resolve the path and check it stays inside an allowed directory")],
      .object [
        ("pattern", .text "open\\s*\\([^)]*request\\.(?:GET|POST|args|form)"),
        ("language", .text "python"),
        ("category", .text "security"),
        ("description", .text "File path taken from the request (path traversal)"),
        ("fix", .text "Normalize the path and verify it is inside a base directory")],
      .object [
        ("pattern", .text "\\.(?:findById|findByPk|get)\\s*\\(\\s*req\\.params\\.\\w+\\s*\\)"),
        ("language", .list [.text "javascript", .text "typescript"]),
        ("category", .text "security"),
        ("description", .text "Object fetched by user-supplied id without an ownership check"),
        ("fix", .text "Scope the lookup to the authenticated user")]])]),
  ("A02_cryptographic_failures", .object [
    ("title", .text "A02 Cryptographic Failures"),
    ("severity", .text "HIGH"),
    ("cwe_mappings", .list [.text "CWE-327", .text "CWE-328", .text "CWE-330"]),
    ("patterns", .list [
      .object [
        ("pattern", .text "createHash\\s*\\(\\s*['\"](?:md5|sha1)['\"]"),
        ("language", .list [.text "javascript", .text "typescript"]),
        ("category", .text "security"),
        ("description", .text "Weak hash algorithm"),
        ("fix", .text "Use sha256 or a password hash")],
      .object [
        ("pattern", .text "hashlib\\.(?:md5|sha1)\\s*\\("),
        ("language", .text "python"),
        ("category", .text "security"),
        ("description", .text "Weak hash algorithm"),
        ("fix", .text "Use hashlib.sha256 or a password hash")],
      .object [
        ("pattern", .text "\\b(?:DES|RC4|ECB)\\b"),
        ("language", .text "all"),
        ("category", .text "security"),
        ("description", .text "Broken cipher or cipher mode"),
        ("fix", .text "Use AES-GCM")],
      .object [
        ("pattern", .text "http://(?!localhost|127\\.0\\.0\\.1)"),
        ("language", .text "all"),
        ("category", .text "security"),
        ("description", .text "Plain-text HTTP URL"),
        ("fix", .text "Use HTTPS")]])]),
  ("A03_injection", .object [
    ("title", .text "A03 Injection"),
    ("severity", .text "CRITICAL"),
    ("cwe_mappings", .list [.text "CWE-89", .text "CWE-78", .text "CWE-79"]),
    ("patterns", .list [
      .object [
        ("pattern", .text "(SELECT|INSERT|UPDATE|DELETE)\\b[^\"'\\n]*[\"']\\s*\\+"),
        ("language", .list [.text "javascript", .text "typescript", .text "java", .text "csharp", .text "php"]),
        ("category", .text "security"),
        ("description", .text "SQL query built by string concatenation"),
        ("fix", .text "Use parameterized queries")],
      .object [
        ("pattern", .text "\\.(?:query|execute)\\s*\\(\\s*[`\"'][^`\"']*(?:\\$\\\x7b|[\"']\\s*\\+)"),
        ("language", .list [.text "javascript", .text "typescript"]),
        ("category", .text "security"),
        ("description", .text "Query call receives an interpolated string"),
        ("fix", .text "Pass values as placeholders")],
      .object [
        ("pattern", .text "cursor\\.execute\\s*\\(\\s*(?:f[\"']|[\"'][^\"']*[\"']\\s*(?:%|\\+|\\.format))"),
        ("language", .text "python"),
        ("category", .text "security"),
        ("description", .text "SQL query formatted before execution"),
        ("fix", .text "Use cursor.execute(sql, params)")],
      .object [
        ("pattern", .text "child_process\\.exec\\s*\\(|\\bexec\\s*\\(\\s*[`'\"][^`'\"]*\\$\\\x7b"),
        ("language", .list [.text "javascript", .text "typescript"]),
        ("category", .text "security"),
        ("description", .text "Shell command execution with dynamic input"),
        ("fix", .text "Use execFile with an argument array")]])]),
  ("A04_insecure_design", .object [
    ("title", .text "A04 Insecure Design"),
    ("severity", .text "MEDIUM"),
    ("cwe_mappings", .list [.text "CWE-209", .text "CWE-256"]),
    ("patterns", .list [
      .object [
        ("pattern", .text "res\\.(?:send|json)\\s*\\(\\s*(?:err|error)(?:\\.stack)?\\s*\\)"),
        ("language", .list [.text "javascript", .text "typescript"]),
        ("category", .text "security"),
        ("description", .text "Internal error details returned to the client"),
        ("fix", .text "Log the error and return a generic message")],
      .object [
        ("pattern", .text "traceback\\.format_exc\\s*\\(\\s*\\)"),
        ("language", .text "python"),
        ("category", .text "security"),
        ("description", .text "Stack trace may be exposed to users"),
        ("fix", .text "Log tracebacks server-side only")]])]),
  ("A05_security_misconfiguration", .object [
    ("title", .text "A05 Security Misconfiguration"),
    ("severity", .text "MEDIUM"),
    ("cwe_mappings", .list [.text "CWE-16", .text "CWE-942"]),
    ("patterns", .list [
      .object [
        ("pattern", .text "Access-Control-Allow-Origin['\"]?\\s*[,:]\\s*['\"]\\*"),
        ("language", .text "all"),
        ("category", .text "security"),
        ("description", .text "Wildcard CORS origin"),
        ("fix", .text "Allow specific origins")],
      .object [
        ("pattern", .text "rejectUnauthorized\\s*:\\s*false|verify\\s*=\\s*False"),
        ("language", .text "all"),
        ("category", .text "security"),
        ("description", .text "TLS certificate verification disabled"),
        ("fix", .text "Keep certificate verification enabled")],
      .object [
        ("pattern", .text "\\bdebug\\s*[:=]\\s*true\\b"),
        ("language", .text "all"),
        ("category", .text "security"),
        ("description", .text "Debug mode enabled"),
        ("fix", .text "Disable debug mode in production configuration")]])]),
  ("A06_vulnerable_components", .object [
    ("title", .text "A06 Vulnerable and Outdated Components"),
    ("severity", .text "MEDIUM"),
    ("cwe_mappings", .list [.text "CWE-1104"]),
    ("patterns", .list [
      .object [
        ("pattern", .text "require\\s*\\(\\s*['\"](?:request|node-uuid|crypto-js)['\"]\\s*\\)"),
        ("language", .list [.text "javascript", .text "typescript"]),
        ("category", .text "security"),
        ("description", .text "Deprecated or unmaintained package"),
        ("fix", .text "Switch to a maintained alternative")],
      .object [
        ("pattern", .text "jquery[-.]?1\\.\\d+"),
        ("language", .text "all"),
        ("category", .text "security"),
        ("description", .text "Outdated jQuery 1.x with known vulnerabilities"),
        ("fix", .text "Upgrade jQuery")]])]),
  ("A07_identification_failures", .object [
    ("title", .text "A07 Identification and Authentication Failures"),
    ("severity", .text "HIGH"),
    ("cwe_mappings", .list [.text "CWE-287", .text "CWE-798", .text "CWE-521"]),
    ("patterns", .list [
      .object [
        ("pattern", .text "(?:password|passwd|pwd|secret|api_?key)\\s*[:=]\\s*['\"][^'\"]\x7b4,\x7d['\"]"),
        ("language", .text "all"),
        ("category", .text "security"),
        ("description", .text "Hard-coded credential"),
        ("fix", .text "Load credentials from a secret store")],
      .object [
        ("pattern", .text "jwt\\.sign\\s*\\([^)]*['\"][^'\"]\x7b1,16\x7d['\"]\\s*[,)]"),
        ("language", .list [.text "javascript", .text "typescript"]),
        ("category", .text "security"),
        ("description", .text "JWT signed with a short literal secret"),
        ("fix", .text "Use a long random secret from configuration")],
      .object [
        ("pattern", .text "algorithms?\\s*[:=]\\s*\\[?\\s*['\"]none['\"]"),
        ("language", .text "all"),
        ("category", .text "security"),
        ("description", .text "JWT `none` algorithm accepted"),
        ("fix", .text "Pin the expected signing algorithm")]])]),
  ("A08_integrity_failures", .object [
    ("title", .text "A08 Software and Data Integrity Failures"),
    ("severity", .text "HIGH"),
    ("cwe_mappings", .list [.text "CWE-502", .text "CWE-829"]),
    ("patterns", .list [
      .object [
        ("pattern", .text "pickle\\.loads?\\s*\\(|yaml\\.load\\s*\\((?![^)]*SafeLoader)"),
        ("language", .text "python"),
        ("category", .text "security"),
        ("description", .text "Deserialization of untrusted data"),
        ("fix", .text "Use json or yaml.safe_load")],
      .object [
        ("pattern", .text "unserialize\\s*\\(\\s*\\$_"),
        ("language", .text "php"),
        ("category", .text "security"),
        ("description", .text "unserialize() on request data"),
        ("fix", .text "Use json_decode")],
      .object [
        ("pattern", .text "<script[^>]+src=['\"]https?://(?![^'\"]*integrity)"),
        ("language", .text "all"),
        ("category", .text "security"),
        ("description", .text "External script loaded without Subresource Integrity"),
        ("fix", .text "Add an integrity attribute")]])]),
  ("A09_logging_failures", .object [
    ("title", .text "A09 Security Logging and Monitoring Failures"),
    ("severity", .text "LOW"),
    ("cwe_mappings", .list [.text "CWE-532", .text "CWE-778"]),
    ("patterns", .list [
      .object [
        ("pattern", .text "(?:console\\.log|logger\\.\\w+|logging\\.\\w+|print)\\s*\\([^)]*(?:password|token|secret)"),
        ("language", .text "all"),
        ("category", .text "security"),
        ("description", .text "Sensitive value written to logs"),
        ("fix", .text "Redact secrets before logging")]])]),
  ("A10_server_side_request_forgery", .object [
    ("title", .text "A10 Server-Side Request Forgery"),
    ("severity", .text "HIGH"),
    ("cwe_mappings", .list [.text "CWE-918"]),
    ("patterns", .list [
      .object [
        ("pattern", .text "(?:fetch|axios\\.\\w+|axios|http\\.get|request)\\s*\\(\\s*req\\.(?:query|params|body)"),
        ("language", .list [.text "javascript", .text "typescript"]),
        ("category", .text "security"),
        ("description", .text "Outbound request to a user-supplied URL"),
        ("fix", .text "Validate the URL against an allow-list")],
      .object [
        ("pattern", .text "requests\\.(?:get|post|put|delete)\\s*\\(\\s*request\\.(?:GET|POST|args|form|json)"),
        ("language", .text "python"),
        ("category", .text "security"),
        ("description", .text "Outbound request to a user-supplied URL"),
        ("fix", .text "Validate the URL against an allow-list")]])])]

end RuleReview.Rule.Builtin
