import RuleReview.Analyzer
import RuleReview.Diff
import RuleReview.Http
import RuleReview.Report

/-! What the library finds and reads, as data with a member for every part. -/

namespace RuleReview

namespace Data

def ofNat (n : Nat) : Data := .integer n

/-- A rational number on the grid of 64-bit numbers as data. -/
def ofRat (x : Rat) : Data := .real (.finite x)

def ofText? (s : Option String) : Data := (s.map Data.text).getD .null

def ofNat? (n : Option Nat) : Data := (n.map ofNat).getD .null

def ofChars (cs : List Char) : Data := .text (String.ofList cs)

def ofTexts (ss : List String) : Data := .list (ss.map .text)

def ofPair (p : String × String) : Data := ofTexts [p.1, p.2]

end Data

open Data

def Issue.toData (i : Issue) : Data := .object [
  ("source", .text i.source), ("category", .text i.category), ("severity", .text i.severity.name),
  ("line", ofNat i.line), ("column", ofNat i.column), ("message", .text i.message),
  ("confidence", ofRat i.confidence), ("sub_category", .text i.subCategory),
  ("category_key", .text i.categoryKey), ("impact", .text i.impact.name),
  ("kind", .text i.kind.name), ("fix", ofText? i.fix), ("example", ofText? i.sample),
  ("description", ofText? i.description), ("cwe", ofTexts i.cwe)]

/-- Figures of a text. -/
def Metrics.members (m : Metrics) : Report.Members := [
  ("total_lines", ofNat m.totalLines), ("code_lines", ofNat m.codeLines),
  ("comment_lines", ofNat m.commentLines), ("cyclomatic_complexity", ofNat m.complexity),
  ("average_lines_per_function", ofNat m.averageFunctionLength),
  ("max_nesting_depth", ofNat m.nestingDepth), ("function_count", ofNat m.functionCount),
  ("duplicated_lines", ofNat m.duplicatedLines), ("comment_ratio", ofRat m.commentRatio)]

def Rule.Scope.toData : Rule.Scope → Data
  | .single tag => .text tag
  | .several tags => ofTexts tags

def Rule.toData (r : Rule) : Data := .object [
  ("source", .text r.source), ("language", r.scope.toData), ("sub_category", .text r.subCategory),
  ("description", .text r.description), ("example", ofText? r.sample), ("fix", ofText? r.fix)]

mutual

def Rule.Category.toData : Rule.Category → Data
  | .mk key title severity rules children cwe => .list [.text key, .object [
    ("key", .text key), ("title", .text title), ("severity", .text severity.name),
    ("cwe", ofTexts cwe), ("patterns", .list (rules.map Rule.toData)),
    ("subcategories", .list (Rule.Category.toDataAll children))]]

/-- Categories under their keys. -/
def Rule.Category.toDataAll : List Rule.Category → List Data
  | [] => []
  | c :: cs => c.toData :: Rule.Category.toDataAll cs

end

def Rule.Collection.members (c : Rule.Collection) : Report.Members := [
  ("name", .text c.name), ("kind", .text c.kind.name), ("language", ofText? c.language),
  ("framework_scoped", .boolean c.aboutFrameworks), ("is_empty", .boolean c.isEmpty),
  ("count", ofNat c.ruleCount), ("categories", .list (Rule.Category.toDataAll c.categories))]

/-- A configuration without the directory it is for. -/
def Config.members (c : Config) : Report.Members := [
  ("default_language", .text c.defaultLanguage),
  ("rules", .object [
    ("sources", ofTexts c.rules.sources), ("extra", .list (c.rules.extra.map ofPair)),
    ("extra_kinds", .list (c.rules.extraKinds.map fun (k, v) => ofPair (k, v.name)))]),
  ("metrics", .object [
    ("complexity_high", ofNat c.metrics.complexityHigh),
    ("complexity_critical", ofNat c.metrics.complexityCritical),
    ("function_length", ofNat c.metrics.functionLength),
    ("nesting_depth", ofNat c.metrics.nestingDepth),
    ("duplication_ratio", ofRat c.metrics.duplicationRatio),
    ("comment_ratio", ofRat c.metrics.commentRatio),
    ("comment_min_lines", ofNat c.metrics.commentMinLines)]),
  ("github", .object [
    ("max_comments", ofNat c.comments.maxComments),
    ("count_hunk_headers", .boolean c.comments.countHunkHeaders)]),
  ("linters", .object [
    ("eslint", .boolean c.linters.eslint), ("flake8", .boolean c.linters.flake8)])]

def Diff.Line.toData (l : Diff.Line) : Data := .list [
  .text l.kind.name, ofChars l.text, ofNat? l.oldLine, ofNat? l.newLine, ofNat l.position]

def Diff.Hunk.toData (h : Diff.Hunk) : Data := .object [
  ("header", ofChars h.header),
  ("range", .list ([h.range.oldStart, h.range.oldCount, h.range.newStart, h.range.newCount].map
    ofNat)),
  ("lines", .list (h.lines.map (·.toData)))]

def Diff.members (d : Diff) : Report.Members := [
  ("path", (d.path.map ofChars).getD .null), ("old_path", (d.oldPath.map ofChars).getD .null),
  ("hunks", .list (d.hunks.map (·.toData)))]

/-- What a client did. -/
def Http.Event.toData : Http.Event → Data
  | .request r => .list [.text r.verb.name, .text r.url, ofText? r.authorization, r.timeout,
      r.payload.getD .null]
  | .pause seconds => .list [.text "sleep", ofRat seconds]

end RuleReview
