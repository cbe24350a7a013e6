import EightBit.Log.Directive
import EightBit.Log.Subscriber
import EightBit.Text.Pieces

/-!
# Choosing log records

A filter is a list of directives. Of those that are about a record the most specific one decides
whether it is let through: the one with the longest target, and then the one that asks for a field.

A filter is written as its directives between commas. Pieces that are no directive are refused
and count for nothing.
-/

namespace EightBit.Log

/-- The directives in the order in which they were given. -/
abbrev Filter := List Directive

/-- A piece of a filter that is no directive. -/
structure Refusal where
  piece : String
  error : DirectiveError
deriving DecidableEq, Repr

/-- What is said about a refused piece. -/
def Refusal.message (r : Refusal) : String :=
  "ignoring `" ++ r.piece ++ "`: " ++ r.error.message

namespace Filter

/-- The pieces of a filter, empty ones left out. -/
def pieces (text : String) : List (List Char) :=
  (Pieces.split ',' text.toList).filter (!·.isEmpty)

/-- The pieces that are refused. -/
def refusals (text : String) : List Refusal :=
  (pieces text).filterMap fun piece =>
    match Directive.ofText piece with
    | .ok _ => none
    | .error e => some ⟨String.ofList piece, e⟩

/-- Reads a filter. If no piece lets any record through, errors are. -/
def ofText (text : String) : Filter :=
  let directives := (pieces text).filterMap fun piece =>
    match Directive.ofText piece with
    | .ok directive => directive
    | .error _ => none
  if directives.isEmpty then [⟨"", none, some .error⟩] else directives

/-- The directive that decides about a record. -/
def decisive? (filter : Filter) (r : Record) : Option Directive :=
  (filter.filter (·.isAbout r)).foldl (fun best d =>
    match best with
    | some b => if d.supersedes b then some d else best
    | none => some d) none

/-- Whether a record is let through. -/
def admits (filter : Filter) (r : Record) : Bool :=
  match (filter.decisive? r).bind (·.limit) with
  | some limit => r.level.rank ≤ limit.rank
  | none => false

end Filter

/-- The subscriber that a text asks for. What it refuses of the text, it says first. -/
def Subscriber.ofText (text : String) : Subscriber where
  notice := String.join ((Filter.refusals text).map fun r => r.message ++ "\n")
  write r := if (Filter.ofText text).admits r then r.render ++ "\n" else ""

/-- Without directives only errors are let through. -/
theorem Subscriber.errorsOnly_ofText_empty : (ofText "").ErrorsOnly where
  notice_eq := rfl
  write_eq r hlevel := by
    have hfilter : Filter.ofText "" = [⟨"", none, some .error⟩] := rfl
    have hdecisive : Filter.decisive? [⟨"", none, some .error⟩] r = some ⟨"", none, some .error⟩ :=
      rfl
    have hrank : ¬ r.level.rank ≤ Level.error.rank := by
      rcases h : r.level <;> simp [h, Level.rank] at hlevel ⊢
    have hadmits : (Filter.ofText "").admits r = false := by
      rw [hfilter, Filter.admits, hdecisive]
      exact decide_eq_false hrank
    show (if (Filter.ofText "").admits r = true then _ else "") = ""
    rw [hadmits]
    rfl

end EightBit.Log
