import PipelineShell.Text.ClusterBreak

/-!
# Grapheme clusters

A text is cut into what a reader takes for one character: a base with its
marks, a Hangul syllable, a pair of regional indicators, a sequence of
pictographs, an Indic conjunct.
-/

namespace PipelineShell.Text

/-- How far a sequence of pictographs has come. -/
inductive PictographPhase where
  | none
  /-- a pictograph and marks after it -/
  | marked
  /-- the same, then a joiner -/
  | joined
  deriving DecidableEq, Repr

/-- How far an Indic conjunct has come. -/
inductive ConjunctPhase where
  | none
  /-- a consonant and marks after it, none of them a linker -/
  | open
  /-- the same with a linker -/
  | linked
  deriving DecidableEq, Repr

/-- What the cluster rules remember of the text to the left. -/
structure ClusterContext where
  last : ClusterClass
  /-- an odd number of regional indicators stands at the end -/
  oddRegional : Bool
  pictograph : PictographPhase
  conjunct : ConjunctPhase
  deriving DecidableEq, Repr

namespace ClusterContext

def isBreaker : ClusterClass → Bool
  | .cr | .lf | .control => true
  | _ => false

/-- Characters of these two classes form one Hangul syllable. -/
def isSyllable : ClusterClass → ClusterClass → Bool
  | .hangulL, .hangulL | .hangulL, .hangulV | .hangulL, .hangulLV | .hangulL, .hangulLVT => true
  | .hangulLV, .hangulV | .hangulLV, .hangulT | .hangulV, .hangulV | .hangulV, .hangulT => true
  | .hangulLVT, .hangulT | .hangulT, .hangulT => true
  | _, _ => false

/-- The cluster goes on with a character of a class. -/
def joins (ctx : ClusterContext) (next : ClusterClass) : Bool :=
  if ctx.last = .cr ∧ next = .lf then true
  else if isBreaker ctx.last || isBreaker next then false
  else isSyllable ctx.last next ||
    next = .extend || next = .joiner || next = .spacingMark || ctx.last = .prepend ||
    (ctx.conjunct = .linked && next = .consonant) ||
    (ctx.pictograph = .joined && next = .pictograph) ||
    (ctx.oddRegional && next = .regional)

/-- What is remembered after one more character. -/
def after (ctx : ClusterContext) (c : Char) (next : ClusterClass) : ClusterContext where
  last := next
  oddRegional := next = .regional && !ctx.oddRegional
  pictograph :=
    if next = .pictograph then .marked
    else if ctx.pictograph = .marked ∧ next = .extend then .marked
    else if ctx.pictograph = .marked ∧ next = .joiner then .joined
    else .none
  conjunct :=
    if next = .consonant then .open
    else if ctx.conjunct = .none then .none
    else if isConjunctLinker c then .linked
    else if (next = .extend ∧ c ≠ '\u200c') ∨ next = .joiner then ctx.conjunct
    else .none

end ClusterContext

/-- A text that is being cut: the finished clusters, latest first, and the
cluster under way, latest character first. -/
structure ClusterReader where
  clusters : List (List Char)
  cluster : List Char
  context : ClusterContext

namespace ClusterReader

def start : ClusterReader := ⟨[], [], ⟨.control, false, .none, .none⟩⟩

def step (r : ClusterReader) (c : Char) : ClusterReader :=
  let next := clusterClass c
  let context := r.context.after c next
  if r.cluster.isEmpty then ⟨r.clusters, [c], context⟩
  else if r.context.joins next then ⟨r.clusters, c :: r.cluster, context⟩
  else ⟨r.cluster.reverse :: r.clusters, [c], context⟩

def finish (r : ClusterReader) : List (List Char) :=
  (if r.cluster.isEmpty then r.clusters else r.cluster.reverse :: r.clusters).reverse

end ClusterReader

/-- The grapheme clusters of a text. -/
def clusters (cs : List Char) : List (List Char) :=
  (cs.foldl ClusterReader.step ClusterReader.start).finish

end PipelineShell.Text
