import RuleReview.Analyzer
import RuleReview.Pool

/-! Analysis of many files, in turn or by several workers. What is told of the files is in
their order either way; only the log may differ in its order. -/

namespace RuleReview.Analyzer

/-- What becomes of a file: its analysis, or none where it cannot be read, and what is logged
of that. -/
structure FileOutcome where
  path : Path
  analysis : Option Analysis
  entry : Log.Entry

def FileOutcome.pair? (o : FileOutcome) : Option (Path × Analysis) := o.analysis.map (o.path, ·)

def analyzeFile (w : Workspace) (a : Analyzer) (path : Path) : Except Fault Analysis :=
  (w.readLossy path).map fun text => a.analyze text.toList none (some path.toString)

/-- Whether a file that cannot be read is passed over. -/
def isPassedOver : Fault → Bool
  | .fileMissing | .isDirectory | .notDirectory | .nameTooLong | .notPermitted => true
  | _ => false

def passedOver (path : Path) (f : Fault) : Log.Entry :=
  ⟨.warning, .analysis, "skipping " ++ path.toString, some f⟩

def fileOutcome (w : Workspace) (a : Analyzer) (path : Path) : Except Fault FileOutcome :=
  match a.analyzeFile w path with
  | .ok r => .ok ⟨path, some r, r.entry⟩
  | .error f => if isPassedOver f then .ok ⟨path, none, passedOver path f⟩ else .error f

/-- What becomes of files that are analyzed one after the other. -/
def analyzeInTurn (w : Workspace) (a : Analyzer) : List Path → LogM Fault (List FileOutcome)
  | [] => return []
  | p :: ps => do
    match a.fileOutcome w p with
    | .error f => throw f
    | .ok o =>
      LogM.add o.entry
      return o :: (← analyzeInTurn w a ps)

/-- What becomes of files that are analyzed by several workers. -/
def analyzeTogether (w : Workspace) (a : Analyzer) (workers : Nat) (choices : List Nat)
    (paths : List Path) : LogM Fault (List FileOutcome) := do
  let pool := Pool.ofList workers (a.fileOutcome w) choices paths
  for r in pool.arrivals do
    if let .ok o := r then LogM.add o.entry
  match (pool.results paths.length).mapM id with
  | .ok os => return os
  | .error f => throw f

/-- What becomes of files, with at most so many workers; there are no more workers than
files. `choices` tells which worker is done next where there are several. -/
def analyzeFiles (w : Workspace) (a : Analyzer) (workers : Nat) (choices : List Nat)
    (paths : List Path) : LogM Fault (List FileOutcome) :=
  let most := min workers paths.length
  if most ≤ 1 then a.analyzeInTurn w paths else a.analyzeTogether w most choices paths

def analyzed (os : List FileOutcome) : List (Path × Analysis) := os.filterMap (·.pair?)

end RuleReview.Analyzer
