import EightBit.Proofs.ImageGrammar
import EightBit.Text.Pieces

/-!
# Program images put together

A program image only depends on what stands between its line feeds: neither the carriage return
that a line may end with nor an empty line at the end counts for anything (`parse_eq_pieces`). So
two images with a line feed between them are read one after the other (`parse_append_feed`), and
the lines of the second are numbered behind those of the first.
-/

namespace EightBit

namespace Image

/-! ## Lines and pieces -/

/-- A carriage return at the end of a line makes no difference to its token. -/
theorem token_append_return (line : List Char) : token (line ++ ['\r']) = token line := by
  have hblank : ∀ c ∈ ['\r'], c.toNat ∈ Blank.whiteSpace :=
    List.forall_mem_singleton.mpr (by decide)
  have hline : IsToken line (token line) := isToken_iff.mpr rfl
  exact (isToken_iff.mp (hline.append_blank hblank)).symm

theorem parseLines_cons_congr {number : Nat} {line line' : List Char}
    {rest rest' : List (List Char)} (hline : token line = token line')
    (hrest : parseLines (number + 1) rest = parseLines (number + 1) rest') :
    parseLines number (line :: rest) = parseLines number (line' :: rest') := by
  rw [parseLines, parseLines, hline, hrest]

/-- A carriage return before the line feed stays in the piece. -/
theorem pieces_of_returnFeed {line : List Char} (h : '\n' ∉ line) (rest : List Char) :
    Pieces.split '\n' (line ++ '\r' :: '\n' :: rest) =
      (line ++ ['\r']) :: Pieces.split '\n' rest := by
  have hpiece : '\n' ∉ line ++ ['\r'] := by simp [h]
  have htext : line ++ '\r' :: '\n' :: rest = (line ++ ['\r']) ++ '\n' :: rest := by simp
  rw [htext, Pieces.split_of_first hpiece]

/-- Lines are read as the pieces that they are cut from. -/
theorem parseLines_pieces {text : List Char} {lines : List (List Char)}
    (h : Lines.Splits text lines) (number : Nat) :
    parseLines number (Pieces.split '\n' text) = parseLines number lines := by
  induction h generalizing number with
  | nil =>
    -- the one piece of the empty text is empty
    exact parseLines_of_empty [] rfl
  | unterminated hne hfeed => rw [Pieces.split_of_not_mem hfeed]
  | feed hfeed hreturn hrest ih =>
    rw [Pieces.split_of_first hfeed]
    exact parseLines_cons_congr rfl (ih (number + 1))
  | @returnFeed line rest lines hfeed hrest ih =>
    rw [pieces_of_returnFeed hfeed]
    exact parseLines_cons_congr (token_append_return line) (ih (number + 1))

/-- An image is read as the pieces between its line feeds. -/
theorem parse_eq_pieces (text : String) :
    parse text = parseLines 1 (Pieces.split '\n' text.toList) := by
  rw [parse]
  exact (parseLines_pieces (Lines.splits_iff.mpr rfl) 1).symm

/-! ## Reading in two parts -/

/-- The same trouble so many lines further down. -/
def shift (count : Nat) (e : InvalidLine) : InvalidLine :=
  ⟨e.line + count, e.token⟩

/-- Numbers of lines only show where a line is reported. -/
theorem parseLines_add (number count : Nat) (lines : List (List Char)) :
    parseLines (number + count) lines = (parseLines number lines).mapError (shift count) := by
  induction lines generalizing number with
  | nil => rfl
  | cons line rest ih =>
    have hrest : parseLines (number + count + 1) rest =
        (parseLines (number + 1) rest).mapError (shift count) := by
      rw [← ih, Nat.add_right_comm]
    by_cases hempty : token line = []
    · rw [parseLines_of_empty rest hempty, parseLines_of_empty rest hempty, hrest]
    · by_cases hliteral : IsLiteral (token line)
      · rw [parseLines_of_isLiteral rest hempty hliteral,
          parseLines_of_isLiteral rest hempty hliteral, hrest]
        cases parseLines (number + 1) rest <;> rfl
      · rw [parseLines_of_not_isLiteral rest hempty hliteral,
          parseLines_of_not_isLiteral rest hempty hliteral]
        rfl

/-- The bytes of some lines and of those behind them, or the trouble with the first that is no
byte. -/
theorem parseLines_append (number : Nat) (first second : List (List Char)) :
    parseLines number (first ++ second) =
      (parseLines number first).bind fun bytes =>
        (parseLines (number + first.length) second).map (bytes ++ ·) := by
  induction first generalizing number with
  | nil =>
    show parseLines number second = (parseLines number second).map ([] ++ ·)
    cases parseLines number second <;> rfl
  | cons line first ih =>
    have hrest : parseLines (number + 1) (first ++ second) =
        (parseLines (number + 1) first).bind fun bytes =>
          (parseLines (number + (line :: first).length) second).map (bytes ++ ·) := by
      rw [ih, List.length_cons, Nat.add_assoc, Nat.add_comm 1]
    rw [List.cons_append]
    by_cases hempty : token line = []
    · rw [parseLines_of_empty _ hempty, parseLines_of_empty _ hempty, hrest]
    · by_cases hliteral : IsLiteral (token line)
      · rw [parseLines_of_isLiteral _ hempty hliteral, parseLines_of_isLiteral _ hempty hliteral,
          hrest]
        cases parseLines (number + 1) first with
        | error e => rfl
        | ok bytes =>
          show Except.map _ (Except.map _ _) = Except.map _ _
          cases parseLines (number + (line :: first).length) second <;> rfl
      · rw [parseLines_of_not_isLiteral _ hempty hliteral,
          parseLines_of_not_isLiteral _ hempty hliteral]
        rfl

/-- Two images with a line feed between them give the bytes of the first and then those of the
second. If the first cannot be read, its trouble is that of the whole. If only the second cannot,
the line that is reported is counted on from the lines of the first, of which there is one more
than it has line feeds. -/
theorem parse_append_feed (first second : String) :
    parse (first ++ "\n" ++ second) =
      match parse first, parse second with
      | .error e, _ => .error e
      | .ok _, .error e => .error ⟨e.line + first.toList.count '\n' + 1, e.token⟩
      | .ok bytes, .ok rest => .ok (bytes ++ rest) := by
  have htext : (first ++ "\n" ++ second).toList = first.toList ++ '\n' :: second.toList := by
    simp
  have hnumber : 1 + (Pieces.split '\n' first.toList).length =
      1 + (first.toList.count '\n' + 1) := by
    rw [Pieces.length_split]
  rw [parse_eq_pieces, htext, Pieces.split_append_separator, parseLines_append, hnumber,
    parseLines_add, ← parse_eq_pieces, ← parse_eq_pieces]
  cases parse first with
  | error e => rfl
  | ok bytes =>
    cases parse second with
    | error e => rfl
    | ok rest => rfl

end Image

end EightBit
