import Offside.Token.Basic
import Offside.Unicode.Blank
import Offside.Unicode.NameContinue

/-!
# Reading one lexeme

`scan c cs` reads the lexeme that stands at the front of the text `c :: cs`; it is `none` where
a blank stands. Each kind of lexeme is told by its first one or two characters and runs as far
as it can.

What is read is a prefix of the text (`scan_isPrefix`), and never empty (`scan_body_ne_nil`).
-/

namespace Offside

/-- One lexeme read off the front of a text. -/
structure Scan where
  /-- The lexeme. -/
  lexeme : Lexeme
  /-- The characters passed over before the lexeme begins. Only a bad escape has some: the part
  of its text that was read before it. -/
  lead : List Char
  /-- The characters that the lexeme covers. -/
  body : List Char

namespace Scan

/-- A token that covers `body`. -/
def token (t : Token) (body : List Char) : Scan := ⟨.token t, [], body⟩

/-- An error that covers `body`. -/
def error (e : LexError) (body : List Char) : Scan := ⟨.error e, [], body⟩

/-- All characters read. -/
def consumed (s : Scan) : List Char := s.lead ++ s.body

end Scan

/-! ### Operators -/

/-- The characters that operators other than the comma consist of. -/
def operatorChars : List Char := "+-*/%^=<>!|&?.:~@$\\".toList

/-- Whether a character may stand in an operator. -/
def isOperatorChar (c : Char) : Bool := operatorChars.contains c

/-- The longest front of a text that holds operator characters only and begins no comment. -/
def operatorRun : List Char → List Char
  | [] => []
  | c :: cs =>
    if isOperatorChar c && !(c == '/' && cs.head? == some '/') then c :: operatorRun cs else []

/-! ### Numbers -/

/-- What follows the first digit of a number: digits, then a point and digits if both are
there. -/
def numberRun (cs : List Char) : List Char :=
  cs.takeWhile Char.isDigit ++
    match cs.dropWhile Char.isDigit with
    | '.' :: d :: ds => if d.isDigit then '.' :: (d :: ds).takeWhile Char.isDigit else []
    | _ => []

/-! ### Names -/

/-- The token that a word stands for. -/
def wordToken (word : String) : Token :=
  if word = "true" then .bool true
  else if word = "false" then .bool false
  else if word = "let" then .keyword .mutable
  else if word = "const" then .keyword .constant
  else .name word

/-! ### Texts -/

/-- The character that a backslash and `c` stand for in a text. -/
def unescape (c : Char) : Option Char :=
  if c = '"' then some '"'
  else if c = 'n' then some '\n'
  else if c = 'r' then some '\r'
  else if c = 't' then some '\t'
  else if c = '\\' then some '\\'
  else if c = '0' then some '\x00'
  else none

/-- How the reading of a text ends. -/
inductive TextEnd where
  /-- At its closing quote. -/
  | closed
  /-- At a line feed or the end of the source, which are not read. -/
  | unclosed
  /-- At a backslash and what follows it, which are no escape. -/
  | badEscape (sequence : List Char)

/-- A text read past its opening quote. -/
structure TextScan where
  /-- The characters it stands for. -/
  value : List Char
  /-- The characters read, up to a bad escape. -/
  read : List Char
  /-- How it ends. -/
  ending : TextEnd

/-- The text with one more character at its front, written as `written`. -/
def TextScan.cons (c : Char) (written : List Char) (s : TextScan) : TextScan :=
  ⟨c :: s.value, written ++ s.read, s.ending⟩

/-- The text whose opening quote stands before `cs`. -/
def scanText : List Char → TextScan
  | [] => ⟨[], [], .unclosed⟩
  | '\n' :: _ => ⟨[], [], .unclosed⟩
  | '"' :: _ => ⟨[], ['"'], .closed⟩
  | ['\\'] => ⟨[], [], .badEscape ['\\']⟩
  | '\\' :: c :: cs =>
    match unescape c with
    | some d => (scanText cs).cons d ['\\', c]
    | none => ⟨[], [], .badEscape ['\\', c]⟩
  | c :: cs => (scanText cs).cons c [c]

/-- The lexeme that a text and its opening quote make. -/
def TextScan.toScan (s : TextScan) : Scan :=
  match s.ending with
  | .closed => .token (.text (String.ofList s.value)) ('"' :: s.read)
  | .unclosed => .error .missingQuote ('"' :: s.read)
  | .badEscape sequence => ⟨.error .badEscape, '"' :: s.read, sequence⟩

/-! ### Lexemes -/

/-- The bracket token that a character stands for. -/
def bracketToken (c : Char) : Option Token :=
  if c = '(' then some (.opening .round)
  else if c = ')' then some (.closing .round)
  else if c = '[' then some (.opening .square)
  else if c = ']' then some (.closing .square)
  else if c = '\x7b' then some (.opening .curly)
  else if c = '\x7d' then some (.closing .curly)
  else none

/-- The generic marker whose quote stands before `cs`. -/
def scanGeneric : List Char → Scan
  | c :: cs =>
    if Unicode.isNameStart c then
      let name := c :: cs.takeWhile Unicode.isNameContinue
      .token (.generic (String.ofList name)) ('\x27' :: name)
    else .error (.unexpected '\x27') ['\x27']
  | [] => .error (.unexpected '\x27') ['\x27']

/-- The lexeme at the front of a text that begins with neither a line break, a blank, a comment
nor a quote. -/
def scanPlain (c : Char) (cs : List Char) : Scan :=
  match bracketToken c with
  | some bracket => .token bracket [c]
  | none =>
    if c = ',' then .token (.operator ",") [c]
    else if c.isDigit then
      let digits := c :: numberRun cs
      .token (.number (String.ofList digits)) digits
    else if isOperatorChar c then
      let symbol := c :: operatorRun cs
      .token (.operator (String.ofList symbol)) symbol
    else if c = '_' ∨ Unicode.isNameStart c then
      let word := c :: cs.takeWhile Unicode.isNameContinue
      .token (wordToken (String.ofList word)) word
    else .error (.unexpected c) [c]

/-- The lexeme at the front of a text, if no blank stands there. A carriage return is a line
break together with a line feed and a blank without one. -/
def scan (c : Char) (cs : List Char) : Option Scan :=
  if c = '\n' then some (.token .newline [c])
  else if c = '\r' ∧ cs.head? = some '\n' then some (.token .newline [c, '\n'])
  else if Unicode.isBlank c then none
  else if c = '/' ∧ cs.head? = some '/' then
    some (.token .comment (c :: cs.takeWhile fun d => d ≠ '\r' ∧ d ≠ '\n'))
  else if c = '"' then some (scanText cs).toScan
  else if c = '\x27' then some (scanGeneric cs)
  else some (scanPlain c cs)

/-! ### What is read is a prefix -/

theorem operatorRun_isPrefix (cs : List Char) : operatorRun cs <+: cs := by
  induction cs with
  | nil => simp [operatorRun]
  | cons c cs ih =>
    rw [operatorRun]
    split
    · exact (List.prefix_cons_inj c).2 ih
    · exact List.nil_prefix

theorem numberRun_isPrefix (cs : List Char) : numberRun cs <+: cs := by
  conv => rhs; rw [← List.takeWhile_append_dropWhile (p := Char.isDigit) (l := cs)]
  rw [numberRun, List.prefix_append_right_inj]
  split
  · next d ds h =>
    rw [h]
    split
    · exact (List.prefix_cons_inj _).2 (List.takeWhile_prefix _)
    · exact List.nil_prefix
  · exact List.nil_prefix

/-- The characters of a text that its lexeme accounts for. -/
def TextScan.written (s : TextScan) : List Char :=
  match s.ending with
  | .badEscape sequence => s.read ++ sequence
  | _ => s.read

theorem TextScan.written_cons (c : Char) (written : List Char) (s : TextScan) :
    (s.cons c written).written = written ++ s.written := by
  obtain ⟨value, read, ending⟩ := s
  cases ending <;> simp [TextScan.cons, TextScan.written]

theorem scanText_isPrefix (cs : List Char) : (scanText cs).written <+: cs := by
  fun_induction scanText cs with
  | case1 => exact List.nil_prefix
  | case2 => exact List.nil_prefix
  | case3 cs => exact (List.prefix_cons_inj _).2 List.nil_prefix
  | case4 => exact List.prefix_rfl
  | case5 c cs d hd ih =>
    rw [TextScan.written_cons]
    exact (List.prefix_append_right_inj ['\\', c]).2 ih
  | case6 c cs hd => exact (List.prefix_append_right_inj ['\\', c]).2 List.nil_prefix
  | case7 c cs h1 h2 h3 h4 ih =>
    rw [TextScan.written_cons]
    exact (List.prefix_append_right_inj [c]).2 ih

theorem TextScan.consumed_toScan (s : TextScan) : s.toScan.consumed = '"' :: s.written := by
  obtain ⟨value, read, ending⟩ := s
  cases ending <;> simp [TextScan.toScan, TextScan.written, Scan.consumed, Scan.token, Scan.error]

theorem scanGeneric_isPrefix (cs : List Char) : (scanGeneric cs).consumed <+: '\x27' :: cs := by
  unfold scanGeneric
  split
  · split
    · exact (List.prefix_cons_inj _).2 ((List.prefix_cons_inj _).2 (List.takeWhile_prefix _))
    · exact (List.prefix_cons_inj _).2 List.nil_prefix
  · exact List.prefix_rfl

theorem scanPlain_isPrefix (c : Char) (cs : List Char) : (scanPlain c cs).consumed <+: c :: cs := by
  unfold scanPlain
  split
  · exact (List.prefix_cons_inj _).2 List.nil_prefix
  · split
    · exact (List.prefix_cons_inj _).2 List.nil_prefix
    · split
      · exact (List.prefix_cons_inj _).2 (numberRun_isPrefix cs)
      · split
        · exact (List.prefix_cons_inj _).2 (operatorRun_isPrefix cs)
        · split
          · exact (List.prefix_cons_inj _).2 (List.takeWhile_prefix _)
          · exact (List.prefix_cons_inj _).2 List.nil_prefix

/-- What is read stands at the front of the text. -/
theorem scan_isPrefix {c : Char} {cs : List Char} {s : Scan} (h : scan c cs = some s) :
    s.consumed <+: c :: cs := by
  unfold scan at h
  split at h
  · obtain rfl := Option.some.inj h
    exact (List.prefix_cons_inj _).2 List.nil_prefix
  split at h
  · next hc =>
    obtain rfl := Option.some.inj h
    obtain ⟨tail, rfl⟩ := List.head?_eq_some_iff.1 hc.2
    exact (List.prefix_append_right_inj [c, '\n']).2 List.nil_prefix
  split at h
  · cases h
  split at h
  · obtain rfl := Option.some.inj h
    exact (List.prefix_cons_inj _).2 (List.takeWhile_prefix _)
  split at h
  · next hc =>
    obtain rfl := Option.some.inj h
    rw [TextScan.consumed_toScan, hc]
    exact (List.prefix_cons_inj _).2 (scanText_isPrefix cs)
  split at h
  · next hc =>
    obtain rfl := Option.some.inj h
    rw [hc]
    exact scanGeneric_isPrefix cs
  · obtain rfl := Option.some.inj h
    exact scanPlain_isPrefix c cs

/-! ### What is read is never empty -/

theorem scanText_sequence_ne_nil {cs sequence : List Char}
    (h : (scanText cs).ending = .badEscape sequence) : sequence ≠ [] := by
  fun_induction scanText cs with
  | case1 => cases h
  | case2 => cases h
  | case3 => cases h
  | case4 => cases h; simp
  | case5 c cs d hd ih => exact ih h
  | case6 => cases h; simp
  | case7 c cs h1 h2 h3 h4 ih => exact ih h

theorem scan_body_ne_nil {c : Char} {cs : List Char} {s : Scan} (h : scan c cs = some s) :
    s.body ≠ [] := by
  unfold scan at h
  split at h
  · obtain rfl := Option.some.inj h
    simp [Scan.token]
  split at h
  · obtain rfl := Option.some.inj h
    simp [Scan.token]
  split at h
  · cases h
  split at h
  · obtain rfl := Option.some.inj h
    simp [Scan.token]
  split at h
  · obtain rfl := Option.some.inj h
    unfold TextScan.toScan
    split
    · simp [Scan.token]
    · simp [Scan.error]
    · next hs => exact scanText_sequence_ne_nil hs
  split at h
  · obtain rfl := Option.some.inj h
    unfold scanGeneric
    repeat' split
    all_goals simp [Scan.token, Scan.error]
  · obtain rfl := Option.some.inj h
    unfold scanPlain
    repeat' split
    all_goals simp [Scan.token, Scan.error]

end Offside
