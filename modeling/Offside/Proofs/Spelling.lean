import Mathlib.Data.Bool.AllAny
import Offside.Proofs.Concatenation

/-!
# How tokens are spelled

`Spells text t` says that `text` is scanned as the token `t` and nothing else.  Each kind of token
with a spelling of its own has one: names (`IsName`), numbers (`IsNumber`), texts between quotes
(`quote`), operators (`IsSymbol`), truth values, keywords and parens.  `Falls` puts spellings with
spaces or line feeds in between together.

What the scan asks of the first character of a name, in front of anything a name needs, holds
because letters are neither blank nor digits nor signs.
-/

namespace Offside

/-! ### Characters -/

namespace Unicode

/-- Whether no range of one list has a code point in common with one of another. -/
def disjoint (xs ys : Ranges) : Bool := xs.all fun x => ys.all fun y => x.2 < y.1 || y.2 < x.1

theorem not_inRanges_of_disjoint {xs ys : Ranges} {c : Char} (h : disjoint xs ys = true)
    (hc : inRanges ys c = true) : inRanges xs c = false := by
  rw [← Bool.not_eq_true]
  intro hx
  obtain ⟨x, mem_x, hx⟩ := inRanges_iff.1 hx
  obtain ⟨y, mem_y, hy⟩ := inRanges_iff.1 hc
  have apart := List.all_eq_true.1 (List.all_eq_true.1 h x mem_x) y mem_y
  simp only [Bool.or_eq_true, decide_eq_true_eq] at apart
  omega

/-- The letters of ASCII. -/
def letterRanges : Ranges := [(0x41, 0x5A), (0x61, 0x7A)]

theorem inRanges_letterRanges_of_isAlpha {c : Char} (h : c.isAlpha = true) :
    inRanges letterRanges c = true := by
  have letter : (decide (c.val ≥ 'A'.val ∧ c.val ≤ 'Z'.val) ||
    (decide (c.val ≥ 'a'.val) && decide (c.val ≤ 'z'.val))) = true := h
  simp only [Bool.or_eq_true, Bool.and_eq_true, decide_eq_true_eq, ge_iff_le,
    UInt32.le_iff_toNat_le] at letter
  exact inRanges_iff.2 (letter.elim (fun h => ⟨(0x41, 0x5A), by simp [letterRanges], h⟩)
    fun h => ⟨(0x61, 0x7A), by simp [letterRanges], h⟩)

/-- The digits of ASCII. -/
def digitRanges : Ranges := [(0x30, 0x39)]

theorem inRanges_digitRanges_of_isDigit {c : Char} (h : c.isDigit = true) :
    inRanges digitRanges c = true := by
  simp only [Char.isDigit, Bool.and_eq_true, decide_eq_true_eq, ge_iff_le,
    UInt32.le_iff_toNat_le] at h
  exact inRanges_iff.2 ⟨(0x30, 0x39), by simp [digitRanges], h⟩

/-- What is disjoint from all that begins a name has no character that does. -/
theorem not_inRanges_of_isNameStart {xs : Ranges} {c : Char}
    (letters : disjoint xs letterRanges = true) (others : disjoint xs nameStartRanges = true)
    (h : isNameStart c = true) : inRanges xs c = false := by
  rcases Bool.or_eq_true _ _ ▸ h with h | h
  · exact not_inRanges_of_disjoint letters (inRanges_letterRanges_of_isAlpha h)
  · exact not_inRanges_of_disjoint others h

theorem not_isBlank_of_isNameStart {c : Char} (h : isNameStart c = true) : isBlank c = false :=
  not_inRanges_of_isNameStart (by decide) (by decide +kernel) h

theorem not_isDigit_of_isNameStart {c : Char} (h : isNameStart c = true) : c.isDigit = false := by
  rw [← Bool.not_eq_true]
  intro hd
  have none : inRanges digitRanges c = false :=
    not_inRanges_of_isNameStart (by decide) (by decide +kernel) h
  rw [inRanges_digitRanges_of_isDigit hd] at none
  cases none

end Unicode

/-- Whether a character begins a lexeme that is neither a line break, a comment nor between
quotes, as far as it shows. -/
structure IsPlain (c : Char) : Prop where
  /-- It is no blank. -/
  not_blank : Unicode.isBlank c = false
  /-- It begins no text. -/
  ne_quote : c ≠ '"'
  /-- It begins no generic marker. -/
  ne_apostrophe : c ≠ '\x27'

theorem scan_of_isPlain {c : Char} {cs : List Char} (h : IsPlain c)
    (comment : ¬(c = '/' ∧ cs.head? = some '/')) : scan c cs = some (scanPlain c cs) := by
  have newline : c ≠ '\n' := by
    rintro rfl
    exact absurd h.not_blank (by decide)
  have carriage : ¬(c = '\r' ∧ cs.head? = some '\n') := by
    rintro ⟨rfl, -⟩
    exact absurd h.not_blank (by decide)
  simp [scan, newline, carriage, h.not_blank, comment, h.ne_quote, h.ne_apostrophe]

/-! ### Spellings -/

/-- Whether a text is scanned as this token, and as nothing else. -/
def Spells (text : List Char) (t : Token) : Prop :=
  ∃ c cs, text = c :: cs ∧ scan c cs = some (.token t text)

theorem itemsFrom_of_spells {text : List Char} {t : Token} (h : Spells text t) (p : Position) :
    itemsFrom p text = [⟨.token t, p, byteLength text⟩] := by
  obtain ⟨c, cs, rfl, hs⟩ := h
  have split : c :: cs = (Scan.token t (c :: cs)).consumed ++ [] := by
    simp [Scan.consumed, Scan.token]
  rw [itemsFrom_of_scan hs split, itemsFrom_nil]
  rfl

/-! ### Texts and their items -/

/-- That a text that begins at `p` falls into these items, all of them tokens and none a comment. -/
structure Falls (p : Position) (text : List Char) (its : List Item) : Prop where
  /-- They are the items of the text. -/
  eq : itemsFrom p text = its
  /-- They are tokens other than comments. -/
  quiet : Quiet its

namespace Falls

variable {p : Position} {xs ys : List Char} {its jts : List Item} {t : Token}

theorem of_spells (h : Spells xs t) (ht : t ≠ .comment) (p : Position) :
    Falls p xs [⟨.token t, p, byteLength xs⟩] :=
  ⟨itemsFrom_of_spells h p, by simpa [Quiet] using ht⟩

theorem append {d : Char} (hd : isSeparator d = true) (newline : d ≠ '\n') (hx : Falls p xs its)
    (hy : Falls (p.advanceAll xs) (d :: ys) jts) : Falls p (xs ++ d :: ys) (its ++ jts) := by
  obtain ⟨rfl, quiet⟩ := hx
  obtain ⟨rfl, quiet'⟩ := hy
  refine ⟨itemsFrom_append_separator hd newline quiet ys, ?_⟩
  exact List.forall_mem_append.2 ⟨quiet, quiet'⟩

/-- Texts with a space in between. -/
theorem space (hx : Falls p xs its) (hy : Falls (p.advanceAll (xs ++ [' '])) ys jts) :
    Falls p (xs ++ ' ' :: ys) (its ++ jts) := by
  refine append isSeparator_space (by decide) hx ⟨?_, hy.quiet⟩
  rw [itemsFrom_space, ← hy.eq, Position.advanceAll_append]
  rfl

/-- Texts on one line and the next. -/
theorem line (hx : Falls p xs its) (hy : Falls (p.advanceAll (xs ++ ['\n'])) ys jts) :
    ∃ nl, nl.lexeme = .token .newline ∧ Falls p (xs ++ '\n' :: ys) (its ++ nl :: jts) := by
  have tokens : ∀ item ∈ itemsFrom p xs, ∃ t, item.lexeme = .token t := fun item hi =>
    (hx.quiet item (hx.eq ▸ hi)).imp fun _ h => h.1
  obtain ⟨nl, hnl, h⟩ := itemsFrom_append_newline tokens ys
  refine ⟨nl, hnl, ⟨by rw [h, hx.eq, hy.eq], ?_⟩⟩
  exact List.forall_mem_append.2 ⟨hx.quiet, List.forall_mem_cons.2 ⟨⟨_, hnl, by simp⟩, hy.quiet⟩⟩

end Falls

/-! ### Names -/

/-- Whether a text is a name, and not one of the words that are no names. -/
structure IsName (s : String) : Prop where
  /-- It is not empty. -/
  ne_nil : s.toList ≠ []
  /-- It begins like a name. -/
  start : ∀ c ∈ s.toList.head?, c = '_' ∨ Unicode.isNameStart c = true
  /-- It goes on like a name. -/
  others : ∀ c ∈ s.toList.tail, Unicode.isNameContinue c = true
  /-- It is no other word. -/
  free : s ∉ ["true", "false", "let", "const"]

instance (s : String) : Decidable (IsName s) :=
  decidable_of_iff (s.toList ≠ [] ∧
      (s.toList.head?.all fun c => c = '_' || Unicode.isNameStart c) = true ∧
      s.toList.tail.all Unicode.isNameContinue = true ∧ s ∉ ["true", "false", "let", "const"])
    ⟨fun ⟨ne, start, others, free⟩ =>
      ⟨ne, by simpa [Option.all_eq_true] using start, List.all_eq_true.1 others, free⟩,
    fun ⟨ne, start, others, free⟩ =>
      ⟨ne, by simpa [Option.all_eq_true] using start, List.all_eq_true.2 others, free⟩⟩

theorem isPlain_of_nameStart {c : Char} (h : c = '_' ∨ Unicode.isNameStart c = true) :
    IsPlain c := by
  rcases h with rfl | h
  · exact ⟨by decide, by decide, by decide⟩
  · refine ⟨Unicode.not_isBlank_of_isNameStart h, ?_, ?_⟩
    · rintro rfl
      exact absurd h (by decide +kernel)
    · rintro rfl
      exact absurd h (by decide +kernel)

theorem not_isOperatorChar_of_nameStart {c : Char} (h : c = '_' ∨ Unicode.isNameStart c = true) :
    isOperatorChar c = false := by
  have none : ∀ d ∈ operatorChars, d ≠ '_' ∧ Unicode.isNameStart d = false :=
    List.all_iff_forall_prop.1 (by decide +kernel)
  rw [← Bool.not_eq_true]
  intro ho
  obtain ⟨low, start⟩ := none c (List.contains_iff_mem.1 ho)
  rcases h with rfl | h
  · exact low rfl
  · rw [start] at h
    cases h

/-- The characters that are a token by themselves. -/
def singles : List Char := "()[]\x7b\x7d,".toList

theorem bracketToken_of_not_mem {c : Char} (h : c ∉ singles) :
    bracketToken c = none ∧ c ≠ ',' := by
  have h : c ∉ ['(', ')', '[', ']', '\x7b', '\x7d', ','] := h
  simp only [List.mem_cons, List.not_mem_nil, or_false, not_or] at h
  simp [bracketToken, h]

/-- A word is scanned as the token that it stands for. -/
theorem spells_word (c : Char) (cs : List Char) (start : c = '_' ∨ Unicode.isNameStart c = true)
    (others : ∀ d ∈ cs, Unicode.isNameContinue d = true) :
    Spells (c :: cs) (wordToken (String.ofList (c :: cs))) := by
  have single : c ∉ singles := by
    have none : ∀ d ∈ singles, d ≠ '_' ∧ Unicode.isNameStart d = false :=
      List.all_iff_forall_prop.1 (by decide +kernel)
    intro hc
    obtain ⟨low, other⟩ := none c hc
    rcases start with rfl | h
    · exact low rfl
    · rw [other] at h
      cases h
  have digit : c.isDigit = false := by
    rcases start with rfl | h
    · decide
    · exact Unicode.not_isDigit_of_isNameStart h
  have operator := not_isOperatorChar_of_nameStart start
  have slash : c ≠ '/' := by
    rintro rfl
    exact absurd operator (by decide)
  refine ⟨c, cs, rfl, ?_⟩
  rw [scan_of_isPlain (isPlain_of_nameStart start) fun h => slash h.1, scanPlain,
    (bracketToken_of_not_mem single).1]
  dsimp only
  rw [if_neg (bracketToken_of_not_mem single).2, digit, operator, if_neg Bool.false_ne_true,
    if_neg Bool.false_ne_true, if_pos start, List.takeWhile_eq_self_iff.2 others]

theorem spells_name {s : String} (h : IsName s) : Spells s.toList (.name s) := by
  obtain ⟨ne, start, others, free⟩ := h
  obtain ⟨c, cs, hs⟩ := List.exists_cons_of_ne_nil ne
  rw [hs] at start others
  have word := spells_word c cs (start c rfl) others
  rw [← hs, String.ofList_toList] at word
  have plain : wordToken s = .name s := by
    simp only [List.mem_cons, List.not_mem_nil, or_false, not_or] at free
    simp [wordToken, free]
  rwa [plain] at word

theorem spells_bool (b : Bool) :
    Spells (if b then "true".toList else "false".toList) (.bool b) := by
  cases b with
  | true =>
    exact spells_word 't' "rue".toList (by decide +kernel) (List.all_eq_true.1 (by decide +kernel))
  | false =>
    exact spells_word 'f' "alse".toList (by decide +kernel) (List.all_eq_true.1 (by decide +kernel))

theorem spells_keyword (word : Keyword) : Spells word.spelling.toList (.keyword word) := by
  cases word with
  | mutable =>
    exact spells_word 'l' "et".toList (by decide +kernel) (List.all_eq_true.1 (by decide +kernel))
  | constant =>
    exact spells_word 'c' "onst".toList (by decide +kernel) (List.all_eq_true.1 (by decide +kernel))

theorem spells_open : Spells ['('] (.opening .round) := ⟨'(', [], rfl, rfl⟩

theorem spells_close : Spells [')'] (.closing .round) := ⟨')', [], rfl, rfl⟩

/-! ### Numbers -/

/-- Whether characters are one digit or more. -/
def AreDigits (cs : List Char) : Prop := cs ≠ [] ∧ ∀ c ∈ cs, c.isDigit = true

/-- Whether a text is a number: digits, then a point and digits or nothing. -/
def IsNumber (s : String) : Prop :=
  AreDigits s.toList ∨
    ∃ whole fraction, s.toList = whole ++ '.' :: fraction ∧ AreDigits whole ∧ AreDigits fraction

theorem spells_digit {c : Char} {cs : List Char} (digit : c.isDigit = true)
    (run : numberRun cs = cs) : Spells (c :: cs) (.number (String.ofList (c :: cs))) := by
  have range := Unicode.inRanges_digitRanges_of_isDigit digit
  have blank : Unicode.isBlank c = false := Unicode.not_inRanges_of_disjoint (by decide) range
  have ne : ∀ {d : Char}, d.isDigit = false → c ≠ d := by
    rintro d hd rfl
    rw [digit] at hd
    cases hd
  have single : c ∉ singles := by
    have none : ∀ d ∈ singles, d.isDigit = false := List.all_iff_forall_prop.1 (by decide)
    exact fun hc => ne (none c hc) rfl
  refine ⟨c, cs, rfl, ?_⟩
  rw [scan_of_isPlain ⟨blank, ne (by decide), ne (by decide)⟩ fun h => ne (by decide) h.1,
    scanPlain, (bracketToken_of_not_mem single).1]
  dsimp only
  rw [if_neg (bracketToken_of_not_mem single).2, if_pos digit, run]

theorem spells_number {s : String} (h : IsNumber s) : Spells s.toList (.number s) := by
  have digits : ∀ {cs : List Char}, (∀ c ∈ cs, c.isDigit = true) →
      cs.takeWhile Char.isDigit = cs ∧ cs.dropWhile Char.isDigit = [] := fun h =>
    ⟨List.takeWhile_eq_self_iff.2 h, List.dropWhile_eq_nil_iff.2 h⟩
  obtain ⟨c, cs, hs, digit, run⟩ : ∃ c cs, s.toList = c :: cs ∧ c.isDigit = true ∧
      numberRun cs = cs := by
    rcases h with ⟨ne, all⟩ | ⟨whole, fraction, hs, ⟨ne, all⟩, ne', all'⟩
    · obtain ⟨c, cs, hs⟩ := List.exists_cons_of_ne_nil ne
      rw [hs, List.forall_mem_cons] at all
      exact ⟨c, cs, hs, all.1, by rw [numberRun, (digits all.2).1, (digits all.2).2]; simp⟩
    · obtain ⟨c, cs, rfl⟩ := List.exists_cons_of_ne_nil ne
      obtain ⟨d, ds, rfl⟩ := List.exists_cons_of_ne_nil ne'
      have point : ('.' : Char).isDigit = false := by decide
      rw [List.forall_mem_cons] at all
      refine ⟨c, cs ++ '.' :: (d :: ds), hs, all.1, ?_⟩
      rw [numberRun, takeWhile_append_cons point, dropWhile_append_cons point, (digits all.2).1,
        (digits all.2).2, List.nil_append]
      simp [all' d (by simp), (digits all').1]
  have spells := spells_digit digit run
  rwa [← hs, String.ofList_toList] at spells

/-! ### Operators -/

/-- Whether a text is an operator: a comma, or operator characters that begin no comment. -/
def IsSymbol (s : String) : Prop :=
  s = "," ∨ s.toList ≠ [] ∧ (∀ c ∈ s.toList, isOperatorChar c = true) ∧
    ¬['/', '/'] <:+: s.toList

theorem operatorRun_eq_self {cs : List Char} (operator : ∀ c ∈ cs, isOperatorChar c = true)
    (comment : ¬['/', '/'] <:+: cs) : operatorRun cs = cs := by
  induction cs with
  | nil => rfl
  | cons c cs ih =>
    rw [List.forall_mem_cons] at operator
    have apart : (c == '/' && cs.head? == some '/') = false := by
      rw [← Bool.not_eq_true, Bool.and_eq_true, beq_iff_eq, beq_iff_eq]
      rintro ⟨rfl, hc⟩
      obtain ⟨tail, rfl⟩ := List.head?_eq_some_iff.1 hc
      exact comment ⟨[], tail, rfl⟩
    have inside : ¬['/', '/'] <:+: cs := fun h => comment (h.trans (List.infix_cons List.infix_rfl))
    rw [operatorRun, operator.1, apart, ih operator.2 inside]
    rfl

theorem spells_operator {s : String} (h : IsSymbol s) : Spells s.toList (.operator s) := by
  rcases h with rfl | ⟨ne, operator, comment⟩
  · exact ⟨',', [], rfl, rfl⟩
  · obtain ⟨c, cs, hs⟩ := List.exists_cons_of_ne_nil ne
    rw [hs] at operator comment
    rw [List.forall_mem_cons] at operator
    have first : ∀ d ∈ operatorChars, (Unicode.isBlank d = false ∧ d ≠ '"' ∧ d ≠ '\x27') ∧
        d ∉ singles ∧ d.isDigit = false := List.all_iff_forall_prop.1 (by decide)
    obtain ⟨⟨blank, quote, apostrophe⟩, single, digit⟩ :=
      first c (List.contains_iff_mem.1 operator.1)
    have apart : ¬(c = '/' ∧ cs.head? = some '/') := by
      rintro ⟨rfl, hc⟩
      obtain ⟨tail, rfl⟩ := List.head?_eq_some_iff.1 hc
      exact comment ⟨[], tail, rfl⟩
    have run := operatorRun_eq_self operator.2
      fun h => comment (h.trans (List.infix_cons List.infix_rfl))
    rw [hs]
    refine ⟨c, cs, rfl, ?_⟩
    rw [scan_of_isPlain ⟨blank, quote, apostrophe⟩ apart, scanPlain,
      (bracketToken_of_not_mem single).1]
    dsimp only
    rw [if_neg (bracketToken_of_not_mem single).2, digit, if_neg Bool.false_ne_true,
      if_pos operator.1, run, ← hs, String.ofList_toList]

/-! ### Texts -/

/-- A character as it is written between quotes: those that have an escape by their escape. -/
def escape (c : Char) : List Char :=
  if c = '"' then ['\\', '"']
  else if c = '\n' then ['\\', 'n']
  else if c = '\r' then ['\\', 'r']
  else if c = '\t' then ['\\', 't']
  else if c = '\\' then ['\\', '\\']
  else if c = '\x00' then ['\\', '0']
  else [c]

/-- A text between quotes. -/
def quote (s : String) : List Char := '"' :: (s.toList.flatMap escape ++ ['"'])

/-- An escape is read as what it stands for. -/
theorem scanText_escape (c : Char) (cs : List Char) :
    scanText (escape c ++ cs) = (scanText cs).cons c (escape c) := by
  unfold escape
  split
  · next h => subst h; rfl
  split
  · next h => subst h; rfl
  split
  · next h => subst h; rfl
  split
  · next h => subst h; rfl
  split
  · next h => subst h; rfl
  split
  · next h => subst h; rfl
  · next quote newline _ _ backslash _ => exact scanText_cons newline quote backslash

theorem scanText_flatMap_escape (cs : List Char) :
    scanText (cs.flatMap escape ++ ['"']) = ⟨cs, cs.flatMap escape ++ ['"'], .closed⟩ := by
  induction cs with
  | nil => rfl
  | cons c cs ih =>
    rw [List.flatMap_cons, List.append_assoc, scanText_escape, ih]
    rfl

theorem spells_text (s : String) : Spells (quote s) (.text s) := by
  refine ⟨'"', s.toList.flatMap escape ++ ['"'], rfl, ?_⟩
  have text : scan '"' (s.toList.flatMap escape ++ ['"']) =
      some (scanText (s.toList.flatMap escape ++ ['"'])).toScan := by
    simp [scan, show Unicode.isBlank '"' = false by decide]
  rw [text, scanText_flatMap_escape]
  simp [TextScan.toScan, quote, String.ofList_toList]

end Offside
