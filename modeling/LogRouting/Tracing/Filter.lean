import LogRouting.Notice
import LogRouting.Text.Search
import LogRouting.Tracing.Directive

namespace LogRouting

def Severity.verbosity (s : Severity) : Nat := 5 - s.rank

namespace Directive

def fits (r : Record) (d : Directive) : Bool :=
  (d.origin.all fun o => o.isPrefixOf r.origin.toList) &&
    d.fields.all fun (name, _) => String.ofList name ∈ "message" :: r.fields.map (·.1) ++ r.absent

/-- How specific a directive is: a longer origin counts most, then more fields. -/
def rank (d : Directive) : Nat × Nat :=
  (d.origin.elim 0 fun o => (String.ofList o).utf8ByteSize + 1, d.fields.length)

def sameRecords (a b : Directive) : Bool := a.origin = b.origin && a.fields.map (·.1) = b.fields.map (·.1)

def precedes (a b : Directive) : Bool :=
  a.rank.1 > b.rank.1 ||
    (a.rank.1 = b.rank.1 && (a.rank.2 > b.rank.2 ||
      (a.rank.2 = b.rank.2 && (b.fields.map (·.1) < a.fields.map (·.1)))))

end Directive

structure Filter where
  directives : List Directive

namespace Filter

/-- The filter of directives. Without any directive only errors are let through. -/
def ofDirectives (all : List Directive) : Filter :=
  if all = [] then ⟨[{ verbosity := 1 }]⟩ else ⟨all.filter (·.isStatic)⟩

def readAll? : List (List Char) → Option (List Directive)
  | [] => some []
  | piece :: pieces =>
    match Directive.read piece with
    | .ok d => (readAll? pieces).map (d :: ·)
    | .error .refused => readAll? pieces
    | .error .broken => none

def read? (s : String) : Option Filter :=
  (readAll? ((Text.splitOn ',' s.toList).filter (· ≠ []))).map ofDirectives

def stronger (best : Option Directive) (d : Directive) : Option Directive :=
  match best with
  | none => some d
  | some b => if d.precedes b || d.sameRecords b then some d else some b

def lets (f : Filter) (r : Record) : Bool :=
  ((f.directives.filter (·.fits r)).foldl stronger none).any fun d => r.severity.verbosity ≤ d.verbosity

end Filter
end LogRouting
