import EightBit.Text.Numeral
import Mathlib.Data.List.Forall2
import Mathlib.Data.Nat.Digits.Defs

/-!
# Numerals

What a numeral is, said without a reader: a row of digits, of which the last is that of the ones
(`Denotes`).

A reader goes over the digits from the left and stops at the first trouble, so it has to be known
what it has read when it stops there. `ReadsAs` says how a text is read behind digits that have been
read already; one digit more is one step (`ReadsAs.cons`), and whatever is read is read in this way
and in no other (`readsAs_readDigits`, `ReadsAs.unique`). From this it follows which texts are
numbers in range, and which of three reasons is given for the others (`read_eq_ok_iff` and those
behind it). Numbers that were written are read back (`read_upperHex`).
-/

namespace EightBit

namespace Numeral

/-! ## Digits -/

/-- `c` is a digit of the value `v`. Letters may be of either case. -/
def IsDigit (radix v : Nat) (c : Char) : Prop :=
  v < radix ∧ (c = v.digitChar ∨ c = v.digitChar.toUpper)

theorem eq_digitChar_iff {v : Nat} (hv : v < 16) (c : Char) :
    c = v.digitChar ∨ c = v.digitChar.toUpper ↔
      if v < 10 then c.toNat = 48 + v else c.toNat = 87 + v ∨ c.toNat = 55 + v := by
  have hchar : v.digitChar.toNat = (if v < 10 then 48 + v else 87 + v) ∧
      v.digitChar.toUpper.toNat = (if v < 10 then 48 + v else 55 + v) := by
    revert v
    decide
  rw [← Char.toNat_inj, ← Char.toNat_inj (d := v.digitChar.toUpper), hchar.1, hchar.2]
  split <;> omega

variable {radix max v w n m acc : Nat} {c : Char} {text first second seen : List Char}

theorem digit?_eq_some_iff (hradix : radix ≤ 16) :
    digit? radix c = some v ↔ IsDigit radix v c := by
  have hge : ∀ d : Char, d ≤ c ↔ d.toNat ≤ c.toNat := fun _ => Iff.rfl
  have hle : ∀ d : Char, c ≤ d ↔ c.toNat ≤ d.toNat := fun _ => Iff.rfl
  rw [digit?, Option.filter_eq_some_iff, decide_eq_true_eq, and_comm, IsDigit]
  apply and_congr_right
  intro hv
  rw [eq_digitChar_iff (by omega)]
  simp only [hge, hle, Char.reduceToNat]
  split_ifs <;> simp only [Option.some.injEq, false_iff] <;> omega

theorem IsDigit.unique (hradix : radix ≤ 16) (hv : IsDigit radix v c) (hw : IsDigit radix w c) :
    v = w := by
  have hread := (digit?_eq_some_iff hradix).mpr hv
  rw [(digit?_eq_some_iff hradix).mpr hw] at hread
  exact (Option.some.inj hread).symm

/-- Digits stand behind the signs among the characters. -/
theorem IsDigit.le_toNat (h : IsDigit radix v c) (hradix : radix ≤ 16) : 48 ≤ c.toNat := by
  obtain ⟨hv, hc⟩ := h
  rw [eq_digitChar_iff (by omega)] at hc
  split at hc <;> omega

theorem IsDigit.toUpper (h : IsDigit radix v c) (hradix : radix ≤ 16) :
    IsDigit radix v c.toUpper := by
  obtain ⟨hv, hc⟩ := h
  have hupper : v.digitChar.toUpper.toUpper = v.digitChar.toUpper := by
    have h16 : v < 16 := by omega
    clear hv hc
    revert v
    decide
  refine ⟨hv, Or.inr ?_⟩
  rcases hc with rfl | rfl
  · rfl
  · exact hupper

/-! ## What digits denote -/

/-- `text` has digits only, and `n` is the number that they denote, the last of them being that of
the ones. -/
def Denotes (radix : Nat) (text : List Char) (n : Nat) : Prop :=
  ∃ values, List.Forall₂ (IsDigit radix) values text ∧ Nat.ofDigits radix values.reverse = n

theorem denotes_nil : Denotes radix [] 0 :=
  ⟨[], .nil, rfl⟩

theorem denotes_singleton (h : IsDigit radix v c) : Denotes radix [c] v :=
  ⟨[v], .cons h .nil, Nat.ofDigits_singleton⟩

theorem Denotes.append (hfirst : Denotes radix first m) (hsecond : Denotes radix second n) :
    Denotes radix (first ++ second) (radix ^ second.length * m + n) := by
  obtain ⟨vs, hvs, rfl⟩ := hfirst
  obtain ⟨ws, hws, rfl⟩ := hsecond
  refine ⟨vs ++ ws, List.rel_append hvs hws, ?_⟩
  rw [List.reverse_append, Nat.ofDigits_append, List.length_reverse, hws.length_eq, Nat.add_comm]

theorem exists_of_denotes_append (h : Denotes radix (first ++ second) n) :
    ∃ m k, Denotes radix first m ∧ Denotes radix second k ∧
      n = radix ^ second.length * m + k := by
  obtain ⟨values, hvalues, rfl⟩ := h
  have hlength : values.length = first.length + second.length := by
    rw [hvalues.length_eq, List.length_append]
  have hfirst : List.Forall₂ (IsDigit radix) (values.take first.length) first :=
    List.forall₂_take_append _ _ _ hvalues
  have hsecond : List.Forall₂ (IsDigit radix) (values.drop first.length) second :=
    List.forall₂_drop_append _ _ _ hvalues
  refine ⟨_, _, ⟨_, hfirst, rfl⟩, ⟨_, hsecond, rfl⟩, ?_⟩
  conv_lhs => rw [← List.take_append_drop first.length values]
  rw [List.reverse_append, Nat.ofDigits_append, List.length_reverse, hsecond.length_eq,
    Nat.add_comm]

theorem Denotes.isDigit (h : Denotes radix text n) (hc : c ∈ text) : ∃ v, IsDigit radix v c := by
  obtain ⟨first, second, rfl⟩ := List.append_of_mem hc
  obtain ⟨-, -, -, ⟨values, hvalues, -⟩, -⟩ := exists_of_denotes_append h
  obtain ⟨v, -, hv, -⟩ := List.forall₂_cons_right_iff.mp hvalues
  exact ⟨v, hv⟩

/-- Digits denote one number. -/
theorem Denotes.unique (hradix : radix ≤ 16) (hn : Denotes radix text n)
    (hm : Denotes radix text m) : n = m := by
  obtain ⟨vs, hvs, rfl⟩ := hn
  obtain ⟨ws, hws, rfl⟩ := hm
  have hunique : Relator.LeftUnique (IsDigit radix) := fun _ _ _ hv hw => hv.unique hradix hw
  rw [List.left_unique_forall₂' hunique hvs hws]

/-- The first digits denote no more than all of them. -/
theorem Denotes.le_of_append (hpos : 0 < radix) (hradix : radix ≤ 16)
    (hfirst : Denotes radix first m) (h : Denotes radix (first ++ second) n) : m ≤ n := by
  obtain ⟨m', k, hm', -, rfl⟩ := exists_of_denotes_append h
  rw [hfirst.unique hradix hm']
  calc m' ≤ radix ^ second.length * m' := Nat.le_mul_of_pos_left m' (Nat.pow_pos hpos)
    _ ≤ radix ^ second.length * m' + k := Nat.le_add_right _ k

/-! ## Reading digits -/

/-- What a text is read as that stands behind the digits `seen`. -/
inductive ReadsAs (radix max : Nat) (seen text : List Char) : Except ReadError Nat → Prop where
  /-- It has digits only, and what is denoted is in range. -/
  | number {n : Nat} (hn : Denotes radix (seen ++ text) n) (hle : n ≤ max) :
      ReadsAs radix max seen text (.ok n)
  /-- What its first digits denote is out of range already. -/
  | tooLarge {first : List Char} {n : Nat} (hfirst : first <+: text)
      (hn : Denotes radix (seen ++ first) n) (hlt : max < n) :
      ReadsAs radix max seen text (.error .tooLarge)
  /-- It does not have digits only, and what those before the first other character denote is in
  range. -/
  | invalidDigit (hnot : ∀ n, ¬ Denotes radix (seen ++ text) n)
      (hle : ∀ first n, first <+: text → Denotes radix (seen ++ first) n → n ≤ max) :
      ReadsAs radix max seen text (.error .invalidDigit)

/-- Behind digits in range, the first digits of a text stay in range if they do so behind its first
character. -/
theorem le_of_prefix_cons (hradix : radix ≤ 16) (hseen : Denotes radix seen acc) (hacc : acc ≤ max)
    (hrest : ∀ rest n, rest <+: text → Denotes radix (seen ++ [c] ++ rest) n → n ≤ max)
    (hfirst : first <+: c :: text) (hn : Denotes radix (seen ++ first) n) : n ≤ max := by
  rcases first with _ | ⟨c', rest⟩
  · rw [List.append_nil] at hn
    rwa [hn.unique hradix hseen]
  · obtain ⟨rfl, hprefix⟩ := List.cons_prefix_cons.mp hfirst
    rw [List.append_cons] at hn
    exact hrest rest n hprefix hn

/-- A digit in range may count as seen. -/
theorem ReadsAs.cons {r : Except ReadError Nat} (hradix : radix ≤ 16)
    (hseen : Denotes radix seen acc) (hacc : acc ≤ max)
    (h : ReadsAs radix max (seen ++ [c]) text r) : ReadsAs radix max seen (c :: text) r := by
  cases h with
  | number hn hle =>
    rw [← List.append_cons] at hn
    exact .number hn hle
  | tooLarge hfirst hn hlt =>
    rw [← List.append_cons] at hn
    exact .tooLarge (List.cons_prefix_cons.mpr ⟨rfl, hfirst⟩) hn hlt
  | invalidDigit hnot hle =>
    rw [← List.append_cons] at hnot
    exact .invalidDigit hnot fun _ _ => le_of_prefix_cons hradix hseen hacc hle

/-- Digits are read from the left: what is read is what the text denotes behind those that have been
seen, or the first trouble with it. -/
theorem readsAs_readDigits (hradix : radix ≤ 16) (hseen : Denotes radix seen acc)
    (hacc : acc ≤ max) : ReadsAs radix max seen text (readDigits radix max acc text) := by
  -- induction on the text; `acc` is what the digits seen so far denote
  induction text generalizing seen acc with
  | nil =>
    rw [← List.append_nil seen] at hseen
    exact .number hseen hacc
  | cons c rest ih =>
    rw [readDigits]
    rcases hdigit : digit? radix c with _ | v
    · have hnot : ∀ text n, ¬ Denotes radix (seen ++ [c] ++ text) n := by
        intro text n hn
        obtain ⟨v, hv⟩ := hn.isDigit (c := c) (by simp)
        rw [(digit?_eq_some_iff hradix).mpr hv] at hdigit
        cases hdigit
      refine .invalidDigit ?_ fun _ _ => le_of_prefix_cons hradix hseen hacc ?_
      · intro n hn
        rw [List.append_cons] at hn
        exact hnot rest n hn
      · intro text n _ hn
        exact absurd hn (hnot text n)
    · have hnext : Denotes radix (seen ++ [c]) (acc * radix + v) := by
        have happend := hseen.append (denotes_singleton ((digit?_eq_some_iff hradix).mp hdigit))
        rwa [List.length_singleton, pow_one, Nat.mul_comm] at happend
      show ReadsAs radix max seen (c :: rest)
        (if max < acc * radix + v then _ else readDigits radix max (acc * radix + v) rest)
      split
      · rename_i hlt
        exact .tooLarge (List.cons_prefix_cons.mpr ⟨rfl, List.nil_prefix⟩) hnext hlt
      · rename_i hle
        exact (ih hnext (Nat.le_of_not_lt hle)).cons hradix hseen hacc

/-- A text is read as one thing only. -/
theorem ReadsAs.unique {r r' : Except ReadError Nat} (hpos : 0 < radix) (hradix : radix ≤ 16)
    (h : ReadsAs radix max seen text r) (h' : ReadsAs radix max seen text r') : r = r' := by
  -- the first digits of a text in range are in range
  have hrange : ∀ {n first m}, Denotes radix (seen ++ text) n → n ≤ max → first <+: text →
      Denotes radix (seen ++ first) m → ¬ max < m := by
    intro n first m hn hle hfirst hm
    obtain ⟨rest, rfl⟩ := hfirst
    rw [← List.append_assoc] at hn
    have hmn := hm.le_of_append hpos hradix hn
    omega
  cases h with
  | number hn hle =>
    cases h' with
    | number hm _ => rw [hn.unique hradix hm]
    | tooLarge hfirst hm hlt => exact absurd hlt (hrange hn hle hfirst hm)
    | invalidDigit hnot _ => exact absurd hn (hnot _)
  | tooLarge hfirst hm hlt =>
    cases h' with
    | number hn hle => exact absurd hlt (hrange hn hle hfirst hm)
    | tooLarge => rfl
    | invalidDigit _ hle =>
      have hm_le := hle _ _ hfirst hm
      omega
  | invalidDigit hnot hle =>
    cases h' with
    | number hn _ => exact absurd hn (hnot _)
    | tooLarge hfirst hm hlt =>
      have hm_le := hle _ _ hfirst hm
      omega
    | invalidDigit => rfl

/-! ## Reading a number -/

/-- A text without the one plus sign that may stand at its start. -/
def unsigned : List Char → List Char
  | '+' :: digits => digits
  | digits => digits

theorem read_of_unsigned_ne_nil (h : unsigned text ≠ []) :
    read radix max text = readDigits radix max 0 (unsigned text) := by
  unfold read
  split
  · exact absurd rfl h
  · exact absurd rfl h
  · rfl
  · rename_i hplus
    unfold unsigned
    split
    · exact absurd rfl (hplus _)
    · rfl

theorem unsigned_eq_nil_iff : unsigned text = [] ↔ text = [] ∨ text = ['+'] := by
  unfold unsigned
  split
  · simp
  · rename_i hplus
    have hne : text ≠ ['+'] := fun htext => hplus [] htext
    simp [hne]

theorem unsigned_eq_self (h : text.head? ≠ some '+') : unsigned text = text := by
  unfold unsigned
  split
  · exact absurd rfl h
  · rfl

/-- Digits have no sign. -/
theorem Denotes.head?_ne_plus (h : Denotes radix text n) (hradix : radix ≤ 16) :
    text.head? ≠ some '+' := by
  intro hplus
  obtain ⟨v, hv⟩ := h.isDigit (List.mem_of_head? hplus)
  exact absurd (hv.le_toNat hradix) (by decide)

/-- Without a digit there is no number. -/
theorem read_of_unsigned_eq_nil (h : unsigned text = []) :
    read radix max text = .error (if text = [] then .empty else .invalidDigit) := by
  rcases unsigned_eq_nil_iff.mp h with rfl | rfl
  · rfl
  · rfl

/-- A number is read from its digits. -/
theorem read_eq_iff_readsAs (hpos : 0 < radix) (hradix : radix ≤ 16) (h : unsigned text ≠ [])
    {r : Except ReadError Nat} :
    read radix max text = r ↔ ReadsAs radix max [] (unsigned text) r := by
  have hreads : ReadsAs radix max [] (unsigned text) (readDigits radix max 0 (unsigned text)) :=
    readsAs_readDigits hradix denotes_nil (Nat.zero_le max)
  rw [read_of_unsigned_ne_nil h]
  constructor
  · intro hr
    rwa [hr] at hreads
  · intro hr
    exact hreads.unique hpos hradix hr

theorem read_eq_ok_iff (hpos : 0 < radix) (hradix : radix ≤ 16) :
    read radix max text = .ok n ↔
      unsigned text ≠ [] ∧ Denotes radix (unsigned text) n ∧ n ≤ max := by
  by_cases h : unsigned text = []
  · simp [read_of_unsigned_eq_nil h, h]
  · rw [read_eq_iff_readsAs hpos hradix h, and_iff_right h]
    constructor
    · intro hr
      cases hr with
      | number hn hle => exact ⟨hn, hle⟩
    · intro hr
      exact .number hr.1 hr.2

theorem read_eq_empty_iff (hpos : 0 < radix) (hradix : radix ≤ 16) :
    read radix max text = .error .empty ↔ text = [] := by
  by_cases h : unsigned text = []
  · simp [read_of_unsigned_eq_nil h]
  · rw [read_eq_iff_readsAs hpos hradix h]
    constructor
    · intro hr
      cases hr
    · intro htext
      exact absurd (unsigned_eq_nil_iff.mpr (Or.inl htext)) h

theorem read_eq_tooLarge_iff (hpos : 0 < radix) (hradix : radix ≤ 16) :
    read radix max text = .error .tooLarge ↔
      ∃ first n, first <+: unsigned text ∧ Denotes radix first n ∧ max < n := by
  by_cases h : unsigned text = []
  · have hzero : ∀ first n, first <+: [] → Denotes radix first n → n = 0 := by
      intro first n hfirst hn
      rw [List.prefix_nil.mp hfirst] at hn
      exact hn.unique hradix denotes_nil
    rw [read_of_unsigned_eq_nil h, h]
    constructor
    · intro hr
      split at hr
      · cases hr
      · cases hr
    · rintro ⟨first, n, hfirst, hn, hlt⟩
      have hn_zero := hzero first n hfirst hn
      omega
  · rw [read_eq_iff_readsAs hpos hradix h]
    constructor
    · intro hr
      cases hr with
      | tooLarge hfirst hn hlt => exact ⟨_, _, hfirst, hn, hlt⟩
    · rintro ⟨first, n, hfirst, hn, hlt⟩
      exact .tooLarge hfirst hn hlt

/-- A bad digit is reported where nothing else can be. -/
theorem read_eq_invalidDigit_iff (hpos : 0 < radix) (hradix : radix ≤ 16) :
    read radix max text = .error .invalidDigit ↔
      text ≠ [] ∧ (¬ ∃ first n, first <+: unsigned text ∧ Denotes radix first n ∧ max < n) ∧
        ¬ ∃ n, unsigned text ≠ [] ∧ Denotes radix (unsigned text) n ∧ n ≤ max := by
  have hempty : read radix max text = .error .empty ↔ text = [] := read_eq_empty_iff hpos hradix
  have hok : ∀ n, read radix max text = .ok n ↔
      unsigned text ≠ [] ∧ Denotes radix (unsigned text) n ∧ n ≤ max :=
    fun n => read_eq_ok_iff hpos hradix
  rw [← read_eq_tooLarge_iff hpos hradix, Ne, ← hempty]
  simp only [← hok]
  rcases read radix max text with e | n
  · cases e <;> simp
  · simp

/-! ## Reading what was written -/

theorem denotes_toDigits (hone : 1 < radix) (n : Nat) :
    Denotes radix (Nat.toDigits radix n) n := by
  -- induction on the number; without its last digit it is a smaller one
  induction n using Nat.strongRecOn with
  | ind n ih =>
    rcases Nat.lt_or_ge n radix with hlt | hge
    · rw [Nat.toDigits_of_lt_base hlt]
      exact denotes_singleton ⟨hlt, Or.inl rfl⟩
    · have hlast : IsDigit radix (n % radix) (n % radix).digitChar :=
        ⟨Nat.mod_lt n (by omega), Or.inl rfl⟩
      have hfront := ih (n / radix) (Nat.div_lt_self (by omega) hone)
      have hall := hfront.append (denotes_singleton hlast)
      rw [List.length_singleton, pow_one, Nat.div_add_mod] at hall
      rwa [Nat.toDigits_of_base_le hone hge]

theorem denotes_zeros (hpos : 0 < radix) (k : Nat) : Denotes radix (List.replicate k '0') 0 := by
  induction k with
  | zero => exact denotes_nil
  | succ k ih => exact (denotes_singleton ⟨hpos, Or.inl rfl⟩).append ih

theorem denotes_padded (hone : 1 < radix) (width n : Nat) :
    Denotes radix (padded radix width n) n := by
  have hzeros := denotes_zeros (Nat.lt_of_succ_lt hone) (width - (Nat.toDigits radix n).length)
  have hall := hzeros.append (denotes_toDigits hone n)
  rwa [Nat.mul_zero, Nat.zero_add] at hall

theorem Denotes.map_toUpper (h : Denotes radix text n) (hradix : radix ≤ 16) :
    Denotes radix (text.map Char.toUpper) n := by
  obtain ⟨values, hvalues, hn⟩ := h
  refine ⟨values, List.forall₂_map_right_iff.mpr ?_, hn⟩
  exact hvalues.imp fun _ _ hv => hv.toUpper hradix

theorem denotes_upperHex (n : Nat) : Denotes 16 (upperHex n) n :=
  (denotes_padded (by decide) 2 n).map_toUpper (by decide)

theorem upperHex_ne_nil (n : Nat) : upperHex n ≠ [] := by
  simp [upperHex, padded, List.leftpad, Nat.toDigits_ne_nil]

/-- A number written in hexadecimal is read back. -/
theorem read_upperHex (h : n ≤ max) : read 16 max (upperHex n) = .ok n := by
  have hdenotes := denotes_upperHex n
  rw [read_eq_ok_iff (by decide) (by decide),
    unsigned_eq_self (hdenotes.head?_ne_plus (by decide))]
  exact ⟨upperHex_ne_nil n, hdenotes, h⟩

end Numeral

end EightBit
