/-! The words of a command line. A word with hyphens at its front is an option: two hyphens
and a name, or one hyphen and any number of letters. A value is the next word, or follows an
equals sign or the letter. After two hyphens alone there are no more options. -/

namespace RuleReview.CommandLine

/-- An option by its names, of which the first one stands for it, and whether it has a
value. -/
structure OptionForm where
  names : List String
  hasValue : Bool := false
  deriving DecidableEq, Repr

def OptionForm.key (f : OptionForm) : String := f.names.headD ""

/-- Words read so far: the options with their values, the other words, the option whose value
comes next, and whether options are over. -/
structure Words where
  options : List (String × String) := []
  others : List String := []
  waiting : Option String := none
  closed : Bool := false
  deriving DecidableEq, Repr

namespace Words

def put (w : Words) (key value : String) : Words :=
  { w with options := w.options ++ [(key, value)], waiting := none }

def putOther (w : Words) (word : String) : Words := { w with others := w.others ++ [word] }

def formOf? (forms : List OptionForm) (name : String) : Option OptionForm :=
  forms.find? (·.names.contains name)

def takeNamed (forms : List OptionForm) (w : Words) (name : String) (attached : Option String) :
    Option Words := do
  let f ← formOf? forms name
  match f.hasValue, attached with
  | true, some value => return w.put f.key value
  | true, none => return { w with waiting := some f.key }
  | false, none => return w.put f.key ""
  | false, some _ => none

/-- Takes options by letters, the last of which may have a value attached. -/
def takeLetters (forms : List OptionForm) (w : Words) : List Char → Option Words
  | [] => some w
  | c :: cs => do
    let f ← formOf? forms (String.ofList ['-', c])
    if f.hasValue then
      if cs.isEmpty then return { w with waiting := some f.key }
      else return w.put f.key (String.ofList cs)
    else takeLetters forms (w.put f.key "") cs

/-- The name and the attached value of an option. -/
def cutAtEquals (cs : List Char) : String × Option String :=
  (String.ofList (cs.takeWhile (· != '=')),
    if cs.contains '=' then some (String.ofList ((cs.dropWhile (· != '=')).drop 1)) else none)

/-- Takes a word. Options may be `mixed` with other words, or end before the first one. -/
def take (forms : List OptionForm) (mixed : Bool) (w : Words) (word : String) : Option Words :=
  match w.waiting with
  | some key => some (w.put key word)
  | none =>
    if w.closed then some (w.putOther word)
    else match word.toList with
      | ['-', '-'] => some { w with closed := true }
      | '-' :: '-' :: cs =>
        let (name, attached) := cutAtEquals ('-' :: '-' :: cs)
        takeNamed forms w name attached
      | '-' :: c :: cs => takeLetters forms w (c :: cs)
      | _ => some { w.putOther word with closed := !mixed }

/-- Reads words, unless one is no option of the forms or a value is missing. -/
def read (forms : List OptionForm) (mixed : Bool) (words : List String) : Option Words := do
  let w ← words.foldlM (take forms mixed) {}
  if w.waiting.isSome then none else return w

def value? (w : Words) (key : String) : Option String := w.options.reverse.lookup key

def has (w : Words) (key : String) : Bool := (w.value? key).isSome

end Words

end RuleReview.CommandLine
