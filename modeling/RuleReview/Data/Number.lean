import RuleReview.Data
import RuleReview.Fault

/-! Whole numbers of values. -/

namespace RuleReview.Data

/-- The whole number of a value: of a number without its places, or of a text. -/
def toInteger : Data → Except Fault Int
  | .boolean b => .ok (if b then 1 else 0)
  | .integer n => .ok n
  | .real (.infinity _) => .error .infinityToInteger
  | .real .notANumber => .error .notANumberToInteger
  | .real .negativeZero => .ok 0
  | .real (.finite x) => .ok (x.num.tdiv x.den)
  | .text s => (Decimal.readInteger s).mapError Fault.ofInteger
  | _ => .error .wrongKind

end RuleReview.Data
