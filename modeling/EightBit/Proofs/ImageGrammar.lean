import EightBit.Image
import EightBit.Proofs.Lines
import Mathlib.Data.List.Forall2
import Mathlib.Data.List.Induction
import Mathlib.Data.List.TakeWhile
import Mathlib.Data.Nat.Digits.Defs

/-!
# The grammar of program images

What a program image is, said without a reader: the tokens of a text (`TokensOf`) are what its
lines hold before the first `#`, without the white space around it, and a token is a literal
(`IsLiteral`) if it has binary digits only and a value that fits in a byte.

* `tokensOf_iff`: every text has tokens in this sense, and no others than those that are read;
* `byte?_of_isLiteral`, `byte?_of_not_isLiteral`: the literals that are not empty denote a byte, and
  nothing else does;
* `parse_iff_grammar`: a text is accepted exactly if all its tokens that are not empty are literals,
  and else the first that is not is reported.
-/

namespace EightBit

/-! ## White space -/

namespace Blank

/-- The code points with the Unicode property White_Space. -/
def whiteSpace : List Nat :=
  [0x0009, 0x000a, 0x000b, 0x000c, 0x000d, 0x0020, 0x0085, 0x00a0, 0x1680, 0x2000, 0x2001, 0x2002,
   0x2003, 0x2004, 0x2005, 0x2006, 0x2007, 0x2008, 0x2009, 0x200a, 0x2028, 0x2029, 0x202f, 0x205f,
   0x3000]

theorem isBlank_iff {c : Char} : isBlank c = true ↔ c.toNat ∈ whiteSpace := by
  simp only [isBlank, ranges, whiteSpace, List.any_cons, List.any_nil, Bool.or_false,
    Bool.or_eq_true, Bool.and_eq_true, decide_eq_true_eq, List.mem_cons, List.not_mem_nil, or_false]
  omega

/-- `token` is `text` without the white space at either end. -/
def Trims (text token : List Char) : Prop :=
  ∃ before after, text = before ++ token ++ after ∧
    (∀ c ∈ before, c.toNat ∈ whiteSpace) ∧ (∀ c ∈ after, c.toNat ∈ whiteSpace) ∧
    (∀ c ∈ token.head?, c.toNat ∉ whiteSpace) ∧ (∀ c ∈ token.getLast?, c.toNat ∉ whiteSpace)

theorem dropWhile_isBlank_append {before rest : List Char}
    (hbefore : ∀ c ∈ before, c.toNat ∈ whiteSpace)
    (hrest : ∀ c ∈ rest.head?, c.toNat ∉ whiteSpace) :
    (before ++ rest).dropWhile isBlank = rest := by
  rw [List.dropWhile_append_of_pos fun c hc => isBlank_iff.mpr (hbefore c hc)]
  rcases rest with _ | ⟨c, rest⟩
  · rfl
  · rw [List.dropWhile_cons_of_neg]
    rw [isBlank_iff]
    exact hrest c rfl

theorem Trims.eq_trim {text token : List Char} (h : Trims text token) : token = trim text := by
  obtain ⟨before, after, rfl, hbefore, hafter, hhead, hlast⟩ := h
  have hend : trimEnd (token ++ after) = token := by
    rw [trimEnd, List.reverse_append, dropWhile_isBlank_append, List.reverse_reverse]
    · exact fun c hc => hafter c (List.mem_reverse.mp hc)
    · rw [List.head?_reverse]
      exact hlast
  rcases token with _ | ⟨c, token⟩
  · -- nothing but white space, so all of it goes at the start
    have hstart : trimStart (before ++ [] ++ after) = [] := by
      refine List.dropWhile_eq_nil_iff.mpr fun c hc => isBlank_iff.mpr ?_
      rw [List.append_nil, List.mem_append] at hc
      exact hc.elim (hbefore c) (hafter c)
    rw [trim, hstart]
    rfl
  · have hstart : trimStart (before ++ (c :: token) ++ after) = c :: token ++ after := by
      rw [trimStart, List.append_assoc]
      exact dropWhile_isBlank_append hbefore hhead
    rw [trim, hstart, hend]

theorem not_mem_whiteSpace_of_head?_dropWhile {text : List Char} :
    ∀ c ∈ (text.dropWhile isBlank).head?, c.toNat ∉ whiteSpace := by
  intro c hc
  have hnot := List.head?_dropWhile_not isBlank text
  rw [Option.mem_def.mp hc] at hnot
  rw [← isBlank_iff, hnot]
  exact Bool.false_ne_true

theorem mem_whiteSpace_of_mem_takeWhile {text : List Char} {c : Char}
    (h : c ∈ text.takeWhile isBlank) : c.toNat ∈ whiteSpace :=
  isBlank_iff.mp (List.mem_takeWhile_imp h)

theorem trims_trim (text : List Char) : Trims text (trim text) := by
  have hstart : text.takeWhile isBlank ++ trimStart text = text :=
    List.takeWhile_append_dropWhile
  have hend : trim text ++ ((trimStart text).reverse.takeWhile isBlank).reverse =
      trimStart text := by
    rw [trim, trimEnd, ← List.reverse_append, List.takeWhile_append_dropWhile,
      List.reverse_reverse]
  refine ⟨text.takeWhile isBlank, ((trimStart text).reverse.takeWhile isBlank).reverse, ?_,
    fun c hc => mem_whiteSpace_of_mem_takeWhile hc,
    fun c hc => mem_whiteSpace_of_mem_takeWhile (List.mem_reverse.mp hc), ?_, ?_⟩
  · rw [List.append_assoc, hend, hstart]
  · -- the first character of the token, if any, is the first of what is left at the start
    intro c hc
    have hfirst : (trimStart text).head? = some c := by
      rw [← hend, List.head?_append, Option.mem_def.mp hc]
      rfl
    exact not_mem_whiteSpace_of_head?_dropWhile c hfirst
  · intro c hc
    rw [trim, trimEnd, List.getLast?_reverse] at hc
    exact not_mem_whiteSpace_of_head?_dropWhile c hc

theorem trims_iff {text token : List Char} : Trims text token ↔ token = trim text := by
  refine ⟨Trims.eq_trim, ?_⟩
  rintro rfl
  exact trims_trim text

section

variable {text token blank : List Char}

/-- White space that is put around a text is trimmed again. -/
theorem Trims.blank_append (h : Trims text token) (hblank : ∀ c ∈ blank, c.toNat ∈ whiteSpace) :
    Trims (blank ++ text) token := by
  obtain ⟨before, after, htext, hbefore, hafter, hends⟩ := h
  refine ⟨blank ++ before, after, ?_, ?_, hafter, hends⟩
  · simp only [htext, List.append_assoc]
  · exact List.forall_mem_append.mpr ⟨hblank, hbefore⟩

theorem Trims.append_blank (h : Trims text token) (hblank : ∀ c ∈ blank, c.toNat ∈ whiteSpace) :
    Trims (text ++ blank) token := by
  obtain ⟨before, after, htext, hbefore, hafter, hends⟩ := h
  refine ⟨before, after ++ blank, ?_, hbefore, ?_, hends⟩
  · simp only [htext, List.append_assoc]
  · exact List.forall_mem_append.mpr ⟨hafter, hblank⟩

end

end Blank

namespace Image

/-! ## Tokens -/

/-- `content` is what stands in `line` before the first `#`, or all of it if there is none. -/
def Uncomments (line content : List Char) : Prop :=
  '#' ∉ content ∧ (line = content ∨ ∃ comment, line = content ++ '#' :: comment)

theorem uncomments_iff {line content : List Char} :
    Uncomments line content ↔ content = line.takeWhile (· ≠ '#') := by
  constructor
  · rintro ⟨hmark, hline⟩
    have hcontent : ∀ c ∈ content, decide (c ≠ '#') = true := by
      intro c hc
      refine decide_eq_true ?_
      rintro rfl
      exact hmark hc
    rcases hline with rfl | ⟨comment, rfl⟩
    · exact (List.takeWhile_eq_self_iff.mpr hcontent).symm
    · rw [List.takeWhile_append_of_pos hcontent, List.takeWhile_cons_of_neg (by decide),
        List.append_nil]
  · rintro rfl
    refine ⟨fun hmem => ?_, ?_⟩
    · have hne := List.mem_takeWhile_imp hmem
      exact of_decide_eq_true hne rfl
    · have hsplit := List.takeWhile_append_dropWhile (p := fun c => decide (c ≠ '#')) (l := line)
      have hfirst := List.head?_dropWhile_not (fun c => decide (c ≠ '#')) line
      rcases hrest : line.dropWhile (· ≠ '#') with _ | ⟨c, comment⟩
      · rw [hrest, List.append_nil] at hsplit
        exact Or.inl hsplit.symm
      · rw [hrest] at hsplit hfirst
        have hc : c = '#' := not_not.mp (of_decide_eq_false hfirst)
        rw [hc] at hsplit
        exact Or.inr ⟨comment, hsplit.symm⟩

/-- `token` is the token of `line`. -/
def IsToken (line token : List Char) : Prop :=
  ∃ content, Uncomments line content ∧ Blank.Trims content token

theorem isToken_iff {line text : List Char} : IsToken line text ↔ text = token line := by
  unfold IsToken token
  constructor
  · rintro ⟨content, hcontent, htoken⟩
    rw [uncomments_iff] at hcontent
    rw [Blank.trims_iff] at htoken
    rw [htoken, hcontent]
  · intro h
    exact ⟨_, uncomments_iff.mpr rfl, Blank.trims_iff.mpr h⟩

/-- All characters of a token stand in its line, before the first `#`. -/
theorem IsToken.mem {line text : List Char} (h : IsToken line text) {c : Char} (hc : c ∈ text) :
    c ∈ line ∧ c ≠ '#' := by
  obtain ⟨content, ⟨hmark, hline⟩, before, after, rfl, -⟩ := h
  have hcontent : c ∈ before ++ text ++ after :=
    List.mem_append_left _ (List.mem_append_right _ hc)
  refine ⟨?_, ?_⟩
  · rcases hline with rfl | ⟨comment, rfl⟩
    · exact hcontent
    · exact List.mem_append_left _ hcontent
  · rintro rfl
    exact hmark hcontent

section

variable {line text blank : List Char}

theorem mark_not_mem_of_blank (hblank : ∀ c ∈ blank, c.toNat ∈ Blank.whiteSpace) : '#' ∉ blank :=
  fun hmem => absurd (hblank '#' hmem) (by decide)

/-- White space at the start of a line is trimmed. -/
theorem IsToken.blank_append (h : IsToken line text)
    (hblank : ∀ c ∈ blank, c.toNat ∈ Blank.whiteSpace) : IsToken (blank ++ line) text := by
  obtain ⟨content, ⟨hmark, hline⟩, htrims⟩ := h
  have hmark' : '#' ∉ blank ++ content := by simp [hmark, mark_not_mem_of_blank hblank]
  have hline' : blank ++ line = blank ++ content ∨
      ∃ comment, blank ++ line = blank ++ content ++ '#' :: comment := by
    rcases hline with rfl | ⟨comment, rfl⟩
    · exact Or.inl rfl
    · exact Or.inr ⟨comment, (List.append_assoc _ _ _).symm⟩
  exact ⟨blank ++ content, ⟨hmark', hline'⟩, htrims.blank_append hblank⟩

/-- White space at the end of a line belongs to its comment, or else is trimmed. -/
theorem IsToken.append_blank (h : IsToken line text)
    (hblank : ∀ c ∈ blank, c.toNat ∈ Blank.whiteSpace) : IsToken (line ++ blank) text := by
  obtain ⟨content, ⟨hmark, hline⟩, htrims⟩ := h
  rcases hline with rfl | ⟨comment, rfl⟩
  · have hmark' : '#' ∉ line ++ blank := by simp [hmark, mark_not_mem_of_blank hblank]
    exact ⟨line ++ blank, ⟨hmark', Or.inl rfl⟩, htrims.append_blank hblank⟩
  · have hline' : content ++ '#' :: comment ++ blank = content ++ '#' :: (comment ++ blank) :=
      List.append_assoc _ _ _
    exact ⟨content, ⟨hmark, Or.inr ⟨comment ++ blank, hline'⟩⟩, htrims⟩

end

/-- A token is its own token. -/
theorem IsToken.self {line text : List Char} (h : IsToken line text) : IsToken text text := by
  have hmark : '#' ∉ text := fun hc => (h.mem hc).2 rfl
  obtain ⟨content, -, before, after, -, -, -, hhead, hlast⟩ := h
  exact ⟨text, ⟨hmark, Or.inl rfl⟩, [], [], by rw [List.nil_append, List.append_nil],
    by simp, by simp, hhead, hlast⟩

/-- `tokens` are the tokens of the lines of a text. -/
def TokensOf (text : List Char) (tokens : List (List Char)) : Prop :=
  ∃ lines, Lines.Splits text lines ∧ List.Forall₂ IsToken lines tokens

theorem forall₂_isToken_iff {lines tokens : List (List Char)} :
    List.Forall₂ IsToken lines tokens ↔ tokens = lines.map token := by
  induction lines generalizing tokens with
  | nil => exact List.forall₂_nil_left_iff
  | cons line lines ih =>
    rw [List.forall₂_cons_left_iff, List.map_cons]
    constructor
    · rintro ⟨first, rest, hfirst, hrest, rfl⟩
      rw [isToken_iff.mp hfirst, ih.mp hrest]
    · rintro rfl
      exact ⟨_, _, isToken_iff.mpr rfl, ih.mpr rfl, rfl⟩

/-- Every text has tokens, and these alone. -/
theorem tokensOf_iff {text : List Char} {tokens : List (List Char)} :
    TokensOf text tokens ↔ tokens = (Lines.split text).map token := by
  constructor
  · rintro ⟨lines, hsplits, htokens⟩
    rw [← hsplits.eq_split]
    exact forall₂_isToken_iff.mp htokens
  · intro h
    exact ⟨_, Lines.splits_iff.mpr rfl, forall₂_isToken_iff.mpr h⟩

/-! ## Literals -/

/-- The value of a binary digit. -/
def digit (c : Char) : Nat :=
  if c = '1' then 1 else 0

/-- The number that a token denotes in base 2, its last digit being that of the ones. -/
def value (token : List Char) : Nat :=
  Nat.ofDigits 2 (token.reverse.map digit)

/-- A token denotes a byte: it has binary digits only, any number of them, and a value of at most
255. -/
def IsLiteral (token : List Char) : Prop :=
  (∀ c ∈ token, c = '0' ∨ c = '1') ∧ value token ≤ 255

theorem value_concat (token : List Char) (c : Char) :
    value (token ++ [c]) = 2 * value token + digit c := by
  rw [value, List.reverse_concat, List.map_cons, Nat.ofDigits_cons, value]
  exact Nat.add_comm _ _

theorem binaryValue_eq_value (token : List Char) : binaryValue 0 token = value token := by
  induction token using List.reverseRecOn with
  | nil => rfl
  | append_singleton token c ih =>
    rw [value_concat, ← ih, binaryValue, List.foldl_append]
    rfl

theorem all_isDigit_iff {token : List Char} :
    token.all (fun c => c == '0' || c == '1') = true ↔ ∀ c ∈ token, c = '0' ∨ c = '1' := by
  simp only [List.all_eq_true, Bool.or_eq_true, beq_iff_eq]

/-- A token that is a literal and not empty denotes the byte with its value. -/
theorem byte?_of_isLiteral {token : List Char} (hne : token ≠ []) (h : IsLiteral token) :
    byte? token = some (UInt8.ofNat (value token)) := by
  obtain ⟨hdigits, hvalue⟩ := h
  have hempty : token.isEmpty = false := List.isEmpty_eq_false_iff.mpr hne
  rw [byte?, hempty, Bool.not_false, Bool.true_and, if_pos (all_isDigit_iff.mpr hdigits)]
  dsimp only
  rw [binaryValue_eq_value, if_pos (by omega)]

/-- No other token denotes a byte. -/
theorem byte?_of_not_isLiteral {token : List Char} (h : ¬ IsLiteral token) :
    byte? token = none := by
  unfold byte?
  split
  · rename_i hdigits
    rw [Bool.and_eq_true, all_isDigit_iff] at hdigits
    have hvalue : ¬ value token ≤ 255 := fun hvalue => h ⟨hdigits.2, hvalue⟩
    dsimp only
    rw [binaryValue_eq_value, if_neg (by omega)]
  · rfl

/-! ## Reading -/

theorem parseLines_of_empty {number : Nat} {line : List Char} (rest : List (List Char))
    (h : token line = []) :
    parseLines number (line :: rest) = parseLines (number + 1) rest := by
  rw [parseLines, h]
  rfl

theorem parseLines_of_isLiteral {number : Nat} {line : List Char} (rest : List (List Char))
    (hne : token line ≠ []) (h : IsLiteral (token line)) :
    parseLines number (line :: rest) =
      (parseLines (number + 1) rest).map (UInt8.ofNat (value (token line)) :: ·) := by
  have hempty : (token line).isEmpty = false := List.isEmpty_eq_false_iff.mpr hne
  rw [parseLines, hempty, byte?_of_isLiteral hne h]
  rcases parseLines (number + 1) rest <;> rfl

theorem parseLines_of_not_isLiteral {number : Nat} {line : List Char} (rest : List (List Char))
    (hne : token line ≠ []) (h : ¬ IsLiteral (token line)) :
    parseLines number (line :: rest) = .error ⟨number, String.ofList (token line)⟩ := by
  have hempty : (token line).isEmpty = false := List.isEmpty_eq_false_iff.mpr hne
  rw [parseLines, hempty, byte?_of_not_isLiteral h]
  rfl

/-- The tokens that are read: the empty ones, which count for nothing, and the literals. -/
def IsReadable (token : List Char) : Prop :=
  token ≠ [] → IsLiteral token

/-- The tokens that count for something. -/
def nonempty (tokens : List (List Char)) : List (List Char) :=
  tokens.filter (· ≠ [])

/-- Bytes are told by their values. -/
theorem map_toNat_eq_cons_iff {bytes : List UInt8} {n : Nat} {rest : List Nat} (h : n ≤ 255) :
    bytes.map (·.toNat) = n :: rest ↔
      ∃ others, bytes = UInt8.ofNat n :: others ∧ others.map (·.toNat) = rest := by
  rw [List.map_eq_cons_iff]
  constructor
  · rintro ⟨byte, others, rfl, rfl, hothers⟩
    exact ⟨others, by rw [UInt8.ofNat_toNat], hothers⟩
  · rintro ⟨others, rfl, hothers⟩
    exact ⟨_, others, rfl, UInt8.toNat_ofNat_of_lt (Nat.lt_succ_of_le h), hothers⟩

/-- Lines are accepted exactly if all their tokens are readable, with the values of those that count
as bytes. -/
theorem parseLines_eq_ok_iff {number : Nat} {lines : List (List Char)} {bytes : List UInt8} :
    parseLines number lines = .ok bytes ↔
      (∀ t ∈ lines.map token, IsReadable t) ∧
        bytes.map (·.toNat) = (nonempty (lines.map token)).map value := by
  induction lines generalizing number bytes with
  | nil =>
    rw [List.map_nil]
    constructor
    · intro h
      cases h
      exact ⟨List.forall_mem_nil _, rfl⟩
    · rintro ⟨-, h⟩
      rw [List.map_eq_nil_iff.mp h]
      rfl
  | cons line rest ih =>
    rw [List.map_cons, List.forall_mem_cons]
    by_cases hempty : token line = []
    · have hread : IsReadable (token line) := fun hne => absurd hempty hne
      have hskip : nonempty (token line :: rest.map token) = nonempty (rest.map token) :=
        List.filter_cons_of_neg (by simp [hempty])
      rw [parseLines_of_empty rest hempty, ih, hskip, and_iff_right hread]
    · by_cases hliteral : IsLiteral (token line)
      · have hread : IsReadable (token line) := fun _ => hliteral
        have hkeep : nonempty (token line :: rest.map token) =
            token line :: nonempty (rest.map token) :=
          List.filter_cons_of_pos (by simp [hempty])
        rw [parseLines_of_isLiteral rest hempty hliteral, and_iff_right hread, hkeep,
          List.map_cons, map_toNat_eq_cons_iff hliteral.2]
        constructor
        · intro h
          rcases hrest : parseLines (number + 1) rest with e | others
          · rw [hrest] at h
            cases h
          · rw [hrest] at h
            cases h
            obtain ⟨hall, hvalues⟩ := ih.mp hrest
            exact ⟨hall, others, rfl, hvalues⟩
        · rintro ⟨hall, others, rfl, hvalues⟩
          rw [ih.mpr ⟨hall, hvalues⟩]
          rfl
      · rw [parseLines_of_not_isLiteral rest hempty hliteral]
        constructor
        · intro h
          cases h
        · rintro ⟨⟨hread, -⟩, -⟩
          exact absurd (hread hempty) hliteral

/-- Lines are refused exactly if some token is not readable, with the first of these and its
line. -/
theorem parseLines_eq_error_iff {number : Nat} {lines : List (List Char)} {e : InvalidLine} :
    parseLines number lines = .error e ↔
      ∃ before t after, lines.map token = before ++ t :: after ∧
        (∀ t' ∈ before, IsReadable t') ∧ ¬ IsReadable t ∧
        e = ⟨number + before.length, String.ofList t⟩ := by
  induction lines generalizing number with
  | nil =>
    constructor
    · intro h
      cases h
    · rintro ⟨before, t, after, h, -⟩
      rw [List.map_nil, List.nil_eq_append_iff] at h
      cases h.2
  | cons line rest ih =>
    rw [List.map_cons]
    by_cases hread : IsReadable (token line)
    · have hskip : parseLines number (line :: rest) = .error e ↔
          parseLines (number + 1) rest = .error e := by
        by_cases hempty : token line = []
        · rw [parseLines_of_empty rest hempty]
        · rw [parseLines_of_isLiteral rest hempty (hread hempty)]
          rcases parseLines (number + 1) rest with e' | others
          · exact Iff.rfl
          · constructor
            · intro h
              cases h
            · intro h
              cases h
      rw [hskip, ih]
      constructor
      · rintro ⟨before, t, after, htokens, hbefore, ht, rfl⟩
        refine ⟨token line :: before, t, after, ?_, List.forall_mem_cons.mpr ⟨hread, hbefore⟩,
          ht, ?_⟩
        · rw [htokens]
          rfl
        · rw [List.length_cons, Nat.add_assoc, Nat.add_comm 1]
      · rintro ⟨_ | ⟨first, before⟩, t, after, htokens, hbefore, ht, rfl⟩
        · cases htokens
          exact absurd hread ht
        · obtain ⟨-, htokens⟩ := List.cons.inj htokens
          refine ⟨before, t, after, htokens, (List.forall_mem_cons.mp hbefore).2, ht, ?_⟩
          rw [List.length_cons, Nat.add_assoc, Nat.add_comm 1]
    · obtain ⟨hne, hnot⟩ := Classical.not_imp.mp hread
      rw [parseLines_of_not_isLiteral rest hne hnot]
      constructor
      · intro h
        cases h
        exact ⟨[], token line, rest.map token, rfl, List.forall_mem_nil _, hread, rfl⟩
      · rintro ⟨_ | ⟨first, before⟩, t, after, htokens, hbefore, ht, rfl⟩
        · cases htokens
          rfl
        · obtain ⟨rfl, -⟩ := List.cons.inj htokens
          exact absurd (List.forall_mem_cons.mp hbefore).1 hread

/-- A text that consists of a token is one line, and the token is that of this line. -/
theorem parse_of_isToken {line text : List Char} (hline : '\n' ∉ line) (h : IsToken line text)
    (hne : text ≠ []) (hnot : ¬ IsLiteral text) :
    parse (String.ofList text) = .error ⟨1, String.ofList text⟩ := by
  have hfeed : '\n' ∉ text := fun hc => hline (h.mem hc).1
  have htoken : token text = text := (isToken_iff.mp h.self).symm
  rw [parse, String.toList_ofList, Lines.split_of_not_mem hne hfeed,
    parseLines_of_not_isLiteral [] (by rwa [htoken]) (by rwa [htoken]), htoken]

/-! ## The grammar -/

/-- A text has tokens, one for each line and these alone. It is accepted exactly if all of them that
are not empty are literals, with their values as the bytes in the order of the lines. It is refused
exactly if one of them is neither empty nor a literal, and the first of these is reported with its
line, counted from 1 with no line left out. A token that is reported is also reported, as line 1,
of the text that consists of it. -/
theorem parse_iff_grammar (text : String) :
    ∃ tokens, TokensOf text.toList tokens ∧
      (∀ tokens', TokensOf text.toList tokens' → tokens' = tokens) ∧
      (∀ bytes, parse text = .ok bytes ↔
        (∀ t ∈ tokens, t ≠ [] → IsLiteral t) ∧
          bytes.map (·.toNat) = (tokens.filter (· ≠ [])).map value) ∧
      (∀ e, parse text = .error e ↔
        ∃ before t after, tokens = before ++ t :: after ∧
          (∀ t' ∈ before, t' ≠ [] → IsLiteral t') ∧ t ≠ [] ∧ ¬ IsLiteral t ∧
          e = ⟨before.length + 1, String.ofList t⟩) ∧
      ∀ e, parse text = .error e → parse e.token = .error ⟨1, e.token⟩ := by
  have herror : ∀ e, parse text = .error e ↔
      ∃ before t after, (Lines.split text.toList).map token = before ++ t :: after ∧
        (∀ t' ∈ before, t' ≠ [] → IsLiteral t') ∧ t ≠ [] ∧ ¬ IsLiteral t ∧
        e = ⟨before.length + 1, String.ofList t⟩ := by
    intro e
    rw [parse, parseLines_eq_error_iff]
    simp only [IsReadable, Classical.not_imp, and_assoc, Nat.add_comm 1]
  refine ⟨(Lines.split text.toList).map token, tokensOf_iff.mpr rfl, fun tokens' h => ?_,
    fun bytes => parseLines_eq_ok_iff, herror, fun e h => ?_⟩
  · exact tokensOf_iff.mp h
  · obtain ⟨before, t, after, htokens, -, hne, hnot, rfl⟩ := (herror e).mp h
    have hmem : t ∈ (Lines.split text.toList).map token := by
      rw [htokens]
      exact List.mem_append_right _ List.mem_cons_self
    obtain ⟨line, hline, htoken⟩ := List.mem_map.mp hmem
    have hfeed := (Lines.splits_iff.mpr rfl).not_mem_of_mem hline
    exact parse_of_isToken hfeed (isToken_iff.mpr htoken.symm) hne hnot

end Image

end EightBit
