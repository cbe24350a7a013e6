import EightBit.Log.Record

/-!
# Writing log records

The program hands its records to a subscriber, which chooses those that are written and says how.
How a subscriber comes to its choice is no matter of the program, so it is known only by what it
writes.
-/

namespace EightBit.Log

/-- What becomes of log records. -/
structure Subscriber where
  /-- What is written when the log is set up, such as complaints about how it should be. -/
  notice : String
  /-- What is written about a record, which is nothing if it is not let through. -/
  write : Record → String

namespace Subscriber

/-- All that is written about some records. -/
def render (s : Subscriber) (records : List Record) : String :=
  String.join (records.map s.write)

/-- What is documented of a subscriber that was not told anything: it lets errors through, and
nothing else. -/
structure ErrorsOnly (s : Subscriber) : Prop where
  notice_eq : s.notice = ""
  write_eq : ∀ r : Record, r.level ≠ .error → s.write r = ""

/-- Writes a line for each error. -/
def errors : Subscriber where
  notice := ""
  write r := if r.level = .error then r.render ++ "\n" else ""

theorem errorsOnly_errors : errors.ErrorsOnly :=
  ⟨rfl, fun _ hlevel => if_neg hlevel⟩

theorem ErrorsOnly.render_eq {s : Subscriber} (h : s.ErrorsOnly) {records : List Record}
    (hlevel : ∀ r ∈ records, r.level ≠ .error) : s.render records = "" := by
  induction records with
  | nil => rfl
  | cons r rest ih =>
    rw [List.forall_mem_cons] at hlevel
    rw [render, List.map_cons, String.join_cons, h.write_eq r hlevel.1, String.empty_append]
    exact ih hlevel.2

end Subscriber

end EightBit.Log
