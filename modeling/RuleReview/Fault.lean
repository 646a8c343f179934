import RuleReview.Console.Markup
import RuleReview.Decimal.Integer
import RuleReview.Json.Reader
import RuleReview.Text.Quoted

/-! Causes for which an operation stops that belong to no module's own errors: files,
encodings, values of the wrong kind, and numbers out of range. -/

namespace RuleReview

/-- A cause that a caller may or may not handle. -/
inductive Fault
  | fileMissing
  | isDirectory
  | notDirectory
  | nameTooLong
  | nulInPath
  | nulInLink
  | undecodable
  | unencodable
  | malformedJson
  | tooDeepJson (c : Json.Container)
  | tooDeepToml
  | tooDeepRules
  | wrongKind
  | noSuchMember
  | noSuchKey
  | emptySelection
  | dividedByZero
  | integerTooLarge
  | quotientTooLarge
  | infinityToInteger
  | notANumberToInteger
  | badInteger (text : String)
  | tooManyDigits (digits : Nat)
  | repeatTooLarge
  | flagsClash
  | notPermitted
  | waitTooLong
  | timeTooLarge
  | refused (status : Nat)
  | unreachable
  | timedOut
  | noAttempt
  | noScheme (address : String)
  | badMarkup (e : Console.Markup.Error)
  deriving DecidableEq, Repr

namespace Fault

/-- The cause in words, where it has words of its own. -/
def message : Fault → String
  | tooDeepJson c =>
    "maximum recursion depth exceeded while decoding a JSON "
      ++ (match c with | .object => "object" | .list => "array") ++ " from a unicode string"
  | tooDeepToml | tooDeepRules => "maximum recursion depth exceeded"
  | nulInPath => "embedded null byte"
  | nulInLink => "lstat: embedded null character in path"
  | emptySelection => "list index out of range"
  | dividedByZero => "division by zero"
  | integerTooLarge => "int too large to convert to float"
  | quotientTooLarge => "integer division result too large for a float"
  | infinityToInteger => "cannot convert float infinity to integer"
  | notANumberToInteger => "cannot convert float NaN to integer"
  | badInteger text => "invalid literal for int() with base 10: " ++ text
  | tooManyDigits digits => Decimal.tooLongText digits
  | repeatTooLarge => "the repetition number is too large"
  | flagsClash => "ASCII and UNICODE flags are incompatible"
  | waitTooLong => "timeout is too large"
  | timeTooLarge => "timestamp too large to convert to C _PyTime_t"
  | noScheme address => "unknown url type: " ++ Text.quoted address
  | badMarkup e => e.message
  | _ => ""

def ofJson : Json.ReadError → Fault
  | .malformed => malformedJson
  | .tooManyDigits n => tooManyDigits n
  | .tooDeep c => tooDeepJson c

/-- Why a text is not read as a whole number; a long text is shown in part. -/
def ofInteger : Decimal.IntegerError → Fault
  | .malformed text => badInteger (String.ofList ((Text.quoted text).toList.take 200))
  | .tooLong n => tooManyDigits n

/-- Why tags are refused. -/
def ofMarkup : Console.Markup.Error → Fault
  | .number e => ofInteger e
  | e => badMarkup e

def hasWords : Fault → Bool
  | nulInPath | nulInLink | notANumberToInteger | badInteger _ | tooManyDigits _ => true
  | _ => false

end Fault

end RuleReview
