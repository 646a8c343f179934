import Mathlib.Data.List.Forall2
import RuleReview.Proofs.Text.Words
import RuleReview.Metrics
import RuleReview.Rule.Match

/-! Line feeds and carriage returns. A carriage return in front of every line feed stands at the
end of a row, where whatever looks at rows drops it: rules the returns alone, figures all blanks.
Proved: such returns change no issue and none of the figures that are told row by row, however
many returns the rows end in already. -/

namespace RuleReview

namespace Text

/-- A text with a carriage return in front of every line feed. -/
def withReturns (cs : List Char) : List Char := replaceChar '\n' ['\r', '\n'] cs

theorem withReturns_cons (c : Char) (cs : List Char) :
    withReturns (c :: cs) = if c = '\n' then '\r' :: '\n' :: withReturns cs
      else c :: withReturns cs := by
  by_cases hc : c = '\n' <;> simp [withReturns, replaceChar, hc]

/-- The rows of such a text are the rows of the text, some with a carriage return more. -/
theorem rows_withReturns (cs : List Char) :
    List.Forall₂ (fun l' l => l' = l ∨ l' = l ++ ['\r']) (rows (withReturns cs)) (rows cs) := by
  induction cs with
  | nil => exact .cons (.inl rfl) .nil
  | cons c cs ih =>
    rw [withReturns_cons]
    by_cases hc : c = '\n'
    · subst hc
      exact .cons (.inr rfl) ih
    · rw [if_neg hc, rows, rows, splitOn_cons, splitOn_cons, if_neg hc, if_neg hc, ← rows, ← rows]
      -- the character is put in front of the first row on either side
      generalize rows (withReturns cs) = ls', rows cs = ls at ih
      cases ih with
      | nil => exact .cons (.inl rfl) .nil
      | cons hfirst hrest =>
        refine .cons ?_ hrest
        rcases hfirst with rfl | rfl
        · exact .inl rfl
        · exact .inr rfl

/-- What does not see a carriage return at the end of a row sees the same rows. -/
theorem map_rows_withReturns {α : Type} {f : List Char → α} (hf : ∀ l, f (l ++ ['\r']) = f l)
    (cs : List Char) : (rows (withReturns cs)).map f = (rows cs).map f := by
  have hrows := rows_withReturns cs
  generalize rows (withReturns cs) = ls', rows cs = ls at hrows
  induction hrows with
  | nil => rfl
  | cons hfirst _ ih =>
    rw [List.map_cons, List.map_cons, ih]
    rcases hfirst with rfl | rfl
    · rfl
    · rw [hf]

end Text

theorem Rule.withoutReturns_concat (l : List Char) :
    withoutReturns (l ++ ['\r']) = withoutReturns l := by
  simp [withoutReturns, Text.dropEndWhile]

theorem Rule.codeLines_withReturns (code : List Char) :
    codeLines (Text.withReturns code) = codeLines code :=
  Text.map_rows_withReturns (fun l => by rw [withoutReturns_concat]) code

theorem Rule.Collection.issues_withReturns (col : Collection) (language : String)
    (code : List Char) :
    col.issues language (Text.withReturns code) = col.issues language code := by
  rw [issues, codeLines_withReturns, issues]

namespace Metrics

theorem trim_return (l : List Char) : Text.trim (l ++ ['\r']) = Text.trim l :=
  Text.trim_concat (by decide) l

theorem isComment_return (l : List Char) : isComment (l ++ ['\r']) = isComment l := by
  rw [isComment, trim_return, isComment]

theorem isCode_return (l : List Char) : isCode (l ++ ['\r']) = isCode l := by
  have hblank : isBlankLine (l ++ ['\r']) = isBlankLine l := by
    have hreturn : Text.isBlank '\r' = true := by decide
    simp [isBlankLine, hreturn]
  rw [isCode, hblank, isComment_return, isCode]

theorem normalized_return (l : List Char) : normalized (l ++ ['\r']) = normalized l := by
  rw [normalized, trim_return, normalized]

/-- A number of rows that do not differ by a carriage return. -/
theorem countP_rows_withReturns {p : List Char → Bool} (hp : ∀ l, p (l ++ ['\r']) = p l)
    (code : List Char) : (Text.rows (Text.withReturns code)).countP p =
      (Text.rows code).countP p := by
  have hsame := congrArg (List.countP id) (Text.map_rows_withReturns hp code)
  rwa [List.countP_map, List.countP_map] at hsame

theorem length_rows_withReturns (code : List Char) :
    (Text.rows (Text.withReturns code)).length = (Text.rows code).length := by
  have hrows := Text.map_rows_withReturns (f := fun _ => ()) (fun _ => rfl) code
  simpa using congrArg List.length hrows

theorem duplicatesOf_withReturns (code : List Char) :
    duplicatesOf (Text.rows (Text.withReturns code)) = duplicatesOf (Text.rows code) := by
  rw [duplicatesOf, comparable, Text.map_rows_withReturns normalized_return, duplicatesOf,
    comparable]

theorem nestingDepthOf_withReturns (code : List Char) :
    nestingDepthOf (Text.withReturns code) = nestingDepthOf code := by
  suffices h : ∀ s, (Text.withReturns code).foldl braceStep s = code.foldl braceStep s by
    rw [nestingDepthOf, h, nestingDepthOf]
  intro s
  induction code generalizing s with
  | nil => rfl
  | cons c cs ih =>
    rw [Text.withReturns_cons]
    by_cases hc : c = '\n'
    · subst hc
      rw [if_pos rfl, List.foldl_cons, List.foldl_cons, ih, List.foldl_cons]
      rfl
    · rw [if_neg hc, List.foldl_cons, List.foldl_cons, ih]

end Metrics

/-- Line ends do not matter. With a carriage return in front of every line feed a text has the
same issues in the same order, as many lines, lines of code, comment lines and repeated lines, the
same part of comment lines, and braces of the same depth. -/
theorem analysis_withReturns (code : List Char) :
    (∀ (col : Rule.Collection) (language : String),
      col.issues language (Text.withReturns code) = col.issues language code) ∧
    (Metrics.ofCode (Text.withReturns code)).totalLines = (Metrics.ofCode code).totalLines ∧
    (Metrics.ofCode (Text.withReturns code)).codeLines = (Metrics.ofCode code).codeLines ∧
    (Metrics.ofCode (Text.withReturns code)).commentLines = (Metrics.ofCode code).commentLines ∧
    (Metrics.ofCode (Text.withReturns code)).commentRatio = (Metrics.ofCode code).commentRatio ∧
    (Metrics.ofCode (Text.withReturns code)).duplicatedLines =
      (Metrics.ofCode code).duplicatedLines ∧
    (Metrics.ofCode (Text.withReturns code)).nestingDepth = (Metrics.ofCode code).nestingDepth := by
  have hcomments := Metrics.countP_rows_withReturns Metrics.isComment_return code
  have hlength := Metrics.length_rows_withReturns code
  refine ⟨fun col language => col.issues_withReturns language code, hlength,
    Metrics.countP_rows_withReturns Metrics.isCode_return code, hcomments, ?_,
    Metrics.duplicatesOf_withReturns code, Metrics.nestingDepthOf_withReturns code⟩
  simp only [Metrics.ofCode, hcomments, hlength]

end RuleReview
