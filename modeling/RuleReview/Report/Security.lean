import RuleReview.Report

/-! The report on security: the issues about it, how many there are of each severity, and
advice on the subjects that occur most. -/

namespace RuleReview.Report

/-- Advice on a subject with its number of issues. -/
structure Recommendation where
  category : String
  count : Nat
  deriving DecidableEq, Repr

namespace Recommendation

/-- How pressing a number of issues is. -/
def priority (r : Recommendation) : String :=
  if 3 < r.count then "HIGH" else if 1 < r.count then "MEDIUM" else "LOW"

/-- Advice by the keys of categories. -/
def known : List (String × String) := [
  ("A01_broken_access_control",
    "Enforce access control checks and validate permissions on every endpoint"),
  ("A02_cryptographic_failures",
    "Use strong cryptographic algorithms and keep keys out of the code"),
  ("A03_injection", "Use parameterized queries and validate or sanitize all user input"),
  ("A04_insecure_design",
    "Design security controls in from the start and apply secure design principles"),
  ("A05_security_misconfiguration",
    "Review and harden the security configuration of every component"),
  ("A06_vulnerable_components",
    "Keep dependencies up to date and scan them for known vulnerabilities"),
  ("A07_identification_failures", "Use robust authentication and secure session management"),
  ("A08_integrity_failures", "Verify the integrity of data and code before trusting it"),
  ("A09_logging_failures", "Log security-relevant events and monitor them"),
  ("A10_server_side_request_forgery", "Validate and filter URLs before the server requests them")]

def advice (r : Recommendation) : String :=
  (known.lookup r.category).getD "Review and improve the security practices in this area"

def toData (r : Recommendation) : Data := .object [
  ("category", .text r.category), ("count", Report.count r.count),
  ("priority", .text r.priority), ("recommendation", .text r.advice)]

end Recommendation

def securityIssues (is : List Issue) : List Issue := is.filter (·.kind == .security)

def subject (i : Issue) : String := if i.categoryKey == "" then i.category else i.categoryKey

def tally (counts : List (String × Nat)) (key : String) : List (String × Nat) :=
  Data.assign key ((Data.lookup key counts).getD 0 + 1) counts

/-- How often each subject occurs, in the order of first occurrences. -/
def subjectCounts (is : List Issue) : List (String × Nat) :=
  ((securityIssues is).map subject).foldl tally []

/-- The most subjects there is advice on. -/
def maxRecommendations : Nat := 3

/-- The subjects that occur most, of equals the first to occur. -/
def recommendations (is : List Issue) : List Recommendation :=
  (((subjectCounts is).mergeSort fun a b => decide (b.2 ≤ a.2)).take maxRecommendations).map
    fun (category, count) => { category, count }

def security (is : List Issue) (time : String) : Members :=
  let found := securityIssues is
  [("summary", .object (("total", count found.length) :: breakdownMembers (Issue.breakdown found))),
    ("vulnerabilities", .list (found.map fun i => .object (securityRecord i))),
    ("recommendations", .list ((recommendations found).map (·.toData))),
    ("metadata", .object [("analyzed_at", .text time), ("engine", .text "CodeSentry"),
      ("version", .text version)])]

end RuleReview.Report
