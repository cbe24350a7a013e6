import EightBit.Proofs.Concatenation
import Mathlib.Logic.Relation

/-!
# The layout of program images

The comments of a program image, the white space around its tokens and the kind of its line ends are
its layout. `LineEdit` changes the layout of one line and `Edit` that of a text, in one place each.

* `LineEdit.isToken`: a line keeps its token when its layout is changed;
* `parse_replace`: what is read from a text depends on a line only through its token;
* `parse_of_edits`: however often the layout of a text is changed, the same is read from it, be it
  the bytes or the line that is no byte.
-/

namespace EightBit

namespace Image

/-! ## Edits -/

/-- White space that can stand within a line. -/
def IsSpacing (blank : List Char) : Prop :=
  ∀ c ∈ blank, c.toNat ∈ Blank.whiteSpace ∧ c ≠ '\n'

/-- The comment part of a line, which is empty or begins with `#`. -/
def IsComment (comment : List Char) : Prop :=
  '\n' ∉ comment ∧ ∀ c ∈ comment.head?, c = '#'

/-- A change of the layout of a line. In `content ++ comment` the `content` has no `#`, so the
comment begins with the first `#` of the line. -/
inductive LineEdit : List Char → List Char → Prop where
  /-- White space is added at the start of the line. -/
  | spaceStart {blank : List Char} (hblank : IsSpacing blank) (line : List Char) :
      LineEdit line (blank ++ line)
  /-- White space is added right before the comment, or before the end if there is none. -/
  | spaceEnd {content blank comment : List Char} (hcontent : '#' ∉ content)
      (hblank : IsSpacing blank) (hcomment : IsComment comment) :
      LineEdit (content ++ comment) (content ++ blank ++ comment)
  /-- The comment is added, removed or replaced. -/
  | comment {content comment comment' : List Char} (hcontent : '#' ∉ content)
      (hcomment : IsComment comment) (hcomment' : IsComment comment') :
      LineEdit (content ++ comment) (content ++ comment')

/-- A line begins behind `before`. -/
def StartsLine (before : List Char) : Prop :=
  ∀ c ∈ before.getLast?, c = '\n'

/-- A line ends before `after`: at the end of the text, at a line feed, or at a carriage return with
a line feed. -/
def EndsLine (after : List Char) : Prop :=
  after = [] ∨ ∃ rest, after = '\n' :: rest ∨ after = '\r' :: '\n' :: rest

instance : DecidablePred IsSpacing :=
  List.decidableBAll fun c : Char => c.toNat ∈ Blank.whiteSpace ∧ c ≠ '\n'

instance : DecidablePred IsComment := fun comment =>
  have : Decidable (∀ c ∈ comment.head?, c = '#') := comment.head?.decidableForallMem
  instDecidableAnd

instance : DecidablePred StartsLine := fun before =>
  before.getLast?.decidableForallMem

/-- A change of the layout of a text in one place. -/
inductive Edit : List Char → List Char → Prop where
  /-- The layout of one line is changed. -/
  | line {before line line' after : List Char} (hstart : StartsLine before)
      (hfeed : '\n' ∉ line) (hend : EndsLine after) (hedit : LineEdit line line') :
      Edit (before ++ line ++ after) (before ++ line' ++ after)
  /-- A carriage return is put before a line feed. -/
  | returnFeed (before after : List Char) :
      Edit (before ++ '\n' :: after) (before ++ '\r' :: '\n' :: after)

/-! ## Tokens -/

theorem IsSpacing.mark_not_mem {blank : List Char} (h : IsSpacing blank) : '#' ∉ blank :=
  mark_not_mem_of_blank fun c hc => (h c hc).1

theorem IsSpacing.feed_not_mem {blank : List Char} (h : IsSpacing blank) : '\n' ∉ blank :=
  fun hmem => (h '\n' hmem).2 rfl

theorem IsComment.uncomments {content comment : List Char} (h : IsComment comment)
    (hcontent : '#' ∉ content) : Uncomments (content ++ comment) content := by
  refine ⟨hcontent, ?_⟩
  cases comment with
  | nil => exact Or.inl (List.append_nil content)
  | cons c rest =>
    have hc : c = '#' := h.2 c rfl
    exact Or.inr ⟨rest, by rw [hc]⟩

/-- A line with a given content has the token that its content is trimmed to. -/
theorem Uncomments.isToken_iff {line content text : List Char} (h : Uncomments line content) :
    IsToken line text ↔ Blank.Trims content text := by
  constructor
  · rintro ⟨content', hcontent', htrims⟩
    have hsame : content' = content := by
      rw [uncomments_iff.mp hcontent', uncomments_iff.mp h]
    rwa [hsame] at htrims
  · intro htrims
    exact ⟨content, h, htrims⟩

/-- A line keeps its token. -/
theorem LineEdit.isToken {line line' text : List Char} (h : LineEdit line line')
    (htoken : IsToken line text) : IsToken line' text := by
  cases h with
  | spaceStart hblank => exact htoken.blank_append fun c hc => (hblank c hc).1
  | @spaceEnd content blank comment hcontent hblank hcomment =>
    have htrims := (hcomment.uncomments hcontent).isToken_iff.mp htoken
    have hcontent' : '#' ∉ content ++ blank := by simp [hcontent, hblank.mark_not_mem]
    exact (hcomment.uncomments hcontent').isToken_iff.mpr
      (htrims.append_blank fun c hc => (hblank c hc).1)
  | comment hcontent hcomment hcomment' =>
    have htrims := (hcomment.uncomments hcontent).isToken_iff.mp htoken
    exact (hcomment'.uncomments hcontent).isToken_iff.mpr htrims

theorem LineEdit.token_eq {line line' : List Char} (h : LineEdit line line') :
    token line' = token line :=
  (isToken_iff.mp (h.isToken (isToken_iff.mpr rfl))).symm

/-- No line is broken in two. -/
theorem LineEdit.feed_not_mem {line line' : List Char} (h : LineEdit line line')
    (hfeed : '\n' ∉ line) : '\n' ∉ line' := by
  cases h with
  | spaceStart hblank => simp [hfeed, hblank.feed_not_mem]
  | spaceEnd hcontent hblank hcomment =>
    rw [List.mem_append, not_or] at hfeed
    simp [hfeed, hblank.feed_not_mem]
  | comment hcontent hcomment hcomment' =>
    rw [List.mem_append, not_or] at hfeed
    simp [hfeed, hcomment'.1]

/-! ## A line in its text -/

/-- What stands before a line is cut into pieces of its own. -/
theorem exists_pieces_of_startsLine {before : List Char} (h : StartsLine before) :
    ∃ first, ∀ rest, Pieces.split '\n' (before ++ rest) = first ++ Pieces.split '\n' rest := by
  induction before using List.reverseRecOn with
  | nil => exact ⟨[], fun rest => rfl⟩
  | append_singleton before c =>
    have hc : c = '\n' := h c (by simp)
    refine ⟨Pieces.split '\n' before, fun rest => ?_⟩
    rw [hc, List.append_assoc]
    exact Pieces.split_append_separator before rest

/-- What stands behind a line is cut into pieces of its own too, but for a carriage return. -/
theorem exists_pieces_of_endsLine {after : List Char} (h : EndsLine after) :
    ∃ ending more, (ending = [] ∨ ending = ['\r']) ∧ ∀ line, '\n' ∉ line →
      Pieces.split '\n' (line ++ after) = (line ++ ending) :: more := by
  rcases h with rfl | ⟨rest, rfl | rfl⟩
  · refine ⟨[], [], Or.inl rfl, fun line hline => ?_⟩
    rw [List.append_nil, Pieces.split_of_not_mem hline]
  · refine ⟨[], Pieces.split '\n' rest, Or.inl rfl, fun line hline => ?_⟩
    rw [List.append_nil, Pieces.split_of_first hline]
  · exact ⟨['\r'], Pieces.split '\n' rest, Or.inr rfl, fun line hline =>
      pieces_of_returnFeed hline rest⟩

theorem parseLines_congr {lines lines' : List (List Char)}
    (h : lines.map token = lines'.map token) (number : Nat) :
    parseLines number lines = parseLines number lines' := by
  induction lines generalizing lines' number with
  | nil =>
    have hnil : lines' = [] := by simpa using h.symm
    rw [hnil]
  | cons line rest ih =>
    cases lines' with
    | nil => simp at h
    | cons line' rest' =>
      have htokens : token line = token line' ∧ rest.map token = rest'.map token := by
        simpa using h
      exact parseLines_cons_congr htokens.1 (ih htokens.2 (number + 1))

/-- What is read from a text depends on a line only through its token. -/
theorem parse_replace {before line line' after : List Char} (hstart : StartsLine before)
    (hend : EndsLine after) (hfeed : '\n' ∉ line) (hfeed' : '\n' ∉ line')
    (htoken : token line' = token line) :
    parse (String.ofList (before ++ line' ++ after)) =
      parse (String.ofList (before ++ line ++ after)) := by
  obtain ⟨first, hfirst⟩ := exists_pieces_of_startsLine hstart
  obtain ⟨ending, more, hending, hmore⟩ := exists_pieces_of_endsLine hend
  have hpiece : token (line' ++ ending) = token (line ++ ending) := by
    rcases hending with rfl | rfl
    · simpa using htoken
    · rw [token_append_return, token_append_return, htoken]
  rw [parse_eq_pieces, parse_eq_pieces, String.toList_ofList, String.toList_ofList,
    List.append_assoc, List.append_assoc, hfirst, hfirst, hmore line' hfeed', hmore line hfeed]
  apply parseLines_congr
  simp [hpiece]

/-- Every text ends with a line, though that line may be empty. -/
theorem exists_last_line (text : List Char) :
    ∃ before line, text = before ++ line ∧ StartsLine before ∧ '\n' ∉ line := by
  induction text using List.reverseRecOn with
  | nil => exact ⟨[], [], rfl, by simp [StartsLine], by simp⟩
  | append_singleton text c ih =>
    by_cases hc : c = '\n'
    · refine ⟨text ++ [c], [], (List.append_nil _).symm, ?_, by simp⟩
      simp [StartsLine, hc]
    · obtain ⟨before, line, htext, hstart, hfeed⟩ := ih
      refine ⟨before, line ++ [c], ?_, hstart, ?_⟩
      · rw [htext, List.append_assoc]
      · simp [hfeed, Ne.symm hc]

/-! ## Texts -/

theorem parse_of_edit {text text' : List Char} (h : Edit text text') :
    parse (String.ofList text') = parse (String.ofList text) := by
  cases h with
  | line hstart hfeed hend hedit =>
    exact parse_replace hstart hend hfeed (hedit.feed_not_mem hfeed) hedit.token_eq
  | returnFeed before after =>
    -- the carriage return is put at the end of the line before the line feed
    obtain ⟨start, line, rfl, hstart, hfeed⟩ := exists_last_line before
    have hend : EndsLine ('\n' :: after) := Or.inr ⟨after, Or.inl rfl⟩
    have hfeed' : '\n' ∉ line ++ ['\r'] := by simp [hfeed]
    have hparse := parse_replace hstart hend hfeed hfeed' (token_append_return line)
    simpa using hparse

/-- Layout has no meaning. However the layout of a text is changed, by white space at the start of
lines or before their comments and ends, by other comments or none, and by carriage returns before
line feeds, the same bytes are read from it, or the same token is reported in the same line. -/
theorem parse_of_edits {text text' : String}
    (h : Relation.ReflTransGen Edit text.toList text'.toList) : parse text' = parse text := by
  have hparse : ∀ final, Relation.ReflTransGen Edit text.toList final →
      parse (String.ofList final) = parse text := by
    intro final hfinal
    induction hfinal with
    | refl => rw [String.ofList_toList]
    | tail _ hedit ih => rw [parse_of_edit hedit, ih]
  have hfinal := hparse text'.toList h
  rwa [String.ofList_toList] at hfinal

/-- An image whose second token is no byte. -/
def plain : String :=
  "1\n2#x\n"

/-- The same image in another layout. -/
def spacedOut : String :=
  "1\r\n\u20032\t##\n"

/-- All kinds of edits lead from the one layout to the other, and the token is still reported. -/
theorem parse_of_edits_spacedOut :
    Relation.ReflTransGen Edit plain.toList spacedOut.toList ∧
      parse spacedOut = .error ⟨2, "2"⟩ := by
  have hstart : StartsLine "1\r\n".toList := by decide
  have hend : EndsLine "\n".toList := Or.inr ⟨[], Or.inl rfl⟩
  have hreturn : Edit plain.toList "1\r\n2#x\n".toList :=
    .returnFeed "1".toList "2#x\n".toList
  have hspaceStart : LineEdit "2#x".toList "\u20032#x".toList :=
    .spaceStart (show IsSpacing "\u2003".toList by decide) "2#x".toList
  have hspaceEnd : LineEdit "\u20032#x".toList "\u20032\t#x".toList :=
    .spaceEnd (show '#' ∉ "\u20032".toList by decide)
      (show IsSpacing "\t".toList by decide) (show IsComment "#x".toList by decide)
  have hcomment : LineEdit "\u20032\t#x".toList "\u20032\t##".toList :=
    .comment (show '#' ∉ "\u20032\t".toList by decide)
      (show IsComment "#x".toList by decide) (show IsComment "##".toList by decide)
  have hedits : Relation.ReflTransGen Edit plain.toList spacedOut.toList :=
    calc
      Relation.ReflTransGen Edit plain.toList "1\r\n2#x\n".toList := .single hreturn
      Relation.ReflTransGen Edit _ "1\r\n\u20032#x\n".toList :=
        .single (.line hstart (by decide) hend hspaceStart)
      Relation.ReflTransGen Edit _ "1\r\n\u20032\t#x\n".toList :=
        .single (.line hstart (by decide) hend hspaceEnd)
      Relation.ReflTransGen Edit _ "1\r\n\u20032\t##\n".toList :=
        .single (.line hstart (by decide) hend hcomment)
  have hplain : parse plain = .error ⟨2, "2"⟩ := by decide
  exact ⟨hedits, (parse_of_edits hedits).trans hplain⟩

end Image

end EightBit
