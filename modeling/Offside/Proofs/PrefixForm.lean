import Offside.Proofs.Legible
import Offside.Proofs.Quotation
import Offside.Proofs.Spans

/-!
# The text of an expression tells its shape

A `Form` is what the text of an expression shows: words, quoted texts and nodes with a tag.  The
text of a proper form tells the form, whatever follows it (`Form.text_append_inj`): a word ends at
a space or a closing paren, a quoted text is told from what follows it, and each node begins with a
paren of its own.  The form of a legible expression can be read as its shape (`Form.read_form`).  So
**sources that are read as expressions with one text are read as expressions of one shape**
(`bare_eq_of_toText_eq`).
-/

namespace Offside

/-! ### Forms -/

/-- What the text of an expression shows. -/
inductive Form where
  /-- A word, as it is. -/
  | word (letters : List Char)
  /-- A text between quotes. -/
  | quoted (value : String)
  /-- A tag with its parts, in parens. -/
  | node (tag : List Char) (parts : List Form)

/-- Whether a character may stand in a word. -/
def InWord (c : Char) : Prop := c ≠ ' ' ∧ c ≠ ')'

instance (c : Char) : Decidable (InWord c) := inferInstanceAs (Decidable (_ ∧ _))

/-- Whether what follows a form ends it. -/
def EndsForm (xs : List Char) : Prop := ∀ c ∈ xs.head?, ¬InWord c

theorem endsForm_space (xs : List Char) : EndsForm (' ' :: xs) := by
  simp [EndsForm, InWord]

theorem endsForm_close (xs : List Char) : EndsForm (')' :: xs) := by
  simp [EndsForm, InWord]

namespace Form

mutual

/-- The text of a form. -/
def text : Form → List Char
  | word letters => letters
  | quoted value => Quoted.text value
  | node tag parts => '(' :: (tag ++ (textAll parts ++ [')']))

/-- The texts of forms, each after a space. -/
def textAll : List Form → List Char
  | [] => []
  | part :: parts => ' ' :: (part.text ++ textAll parts)

end

mutual

/-- Whether a form shows in its text: words and tags end where they seem to, and words are neither
empty nor seem to be anything else. -/
def Proper : Form → Prop
  | word letters => (∃ c cs, letters = c :: cs ∧ c ≠ '(' ∧ c ≠ '"') ∧ ∀ c ∈ letters, InWord c
  | quoted _ => True
  | node tag parts => (∀ c ∈ tag, InWord c) ∧ ProperAll parts

/-- Whether forms are proper. -/
def ProperAll : List Form → Prop
  | [] => True
  | part :: parts => part.Proper ∧ ProperAll parts

end

theorem endsForm_textAll (parts : List Form) (xs : List Char) :
    EndsForm (textAll parts ++ ')' :: xs) := by
  cases parts with
  | nil => exact endsForm_close xs
  | cons part parts => exact endsForm_space _

/-- What a word does not begin with. -/
theorem Proper.word_ne {letters xs ys : List Char} {d : Char} (h : (word letters).Proper)
    (sign : d = '(' ∨ d = '"') : letters ++ xs ≠ d :: ys := by
  obtain ⟨⟨c, cs, rfl, paren, quote⟩, -⟩ := h
  intro same
  obtain ⟨rfl, -⟩ := List.cons.inj same
  exact sign.elim paren quote

mutual

/-- **The text of a form tells the form**, whatever follows it. -/
theorem text_append_inj {f g : Form} (hf : f.Proper) (hg : g.Proper) {xs ys : List Char}
    (hx : EndsForm xs) (hy : EndsForm ys) (h : f.text ++ xs = g.text ++ ys) : f = g ∧ xs = ys := by
  cases f with
  | word letters =>
    cases g with
    | word letters' =>
      obtain ⟨rfl, rfl⟩ := append_inj_of_run hf.2 hg.2 hx hy h
      exact ⟨rfl, rfl⟩
    | quoted value => exact absurd h (hf.word_ne (.inr rfl))
    | node tag parts => exact absurd h (hf.word_ne (.inl rfl))
  | quoted value =>
    cases g with
    | word letters => exact absurd h.symm (hg.word_ne (.inr rfl))
    | quoted value' =>
      obtain ⟨rfl, rfl⟩ := Quoted.text_append_inj h
      exact ⟨rfl, rfl⟩
    | node tag parts => exact absurd (List.cons.inj h).1 (by decide)
  | node tag parts =>
    cases g with
    | word letters => exact absurd h.symm (hg.word_ne (.inl rfl))
    | quoted value => exact absurd (List.cons.inj h).1 (by decide)
    | node tag' parts' =>
      simp only [text, List.cons_append, List.append_assoc, List.nil_append, List.cons.injEq,
        true_and] at h
      -- The tags end at a space or at the closing paren, and then the parts are the same.
      obtain ⟨rfl, rest⟩ := append_inj_of_run hf.1 hg.1 (endsForm_textAll parts xs)
        (endsForm_textAll parts' ys) h
      obtain ⟨rfl, rfl⟩ := textAll_append_inj hf.2 hg.2 rest
      exact ⟨rfl, rfl⟩

/-- The parts of a form end at its paren. -/
theorem textAll_append_inj {fs gs : List Form} (hf : ProperAll fs) (hg : ProperAll gs)
    {xs ys : List Char} (h : textAll fs ++ ')' :: xs = textAll gs ++ ')' :: ys) :
    fs = gs ∧ xs = ys := by
  cases fs with
  | nil =>
    cases gs with
    | nil => exact ⟨rfl, (List.cons.inj h).2⟩
    | cons g gs => exact absurd (List.cons.inj h).1 (by decide)
  | cons f fs =>
    cases gs with
    | nil => exact absurd (List.cons.inj h).1 (by decide)
    | cons g gs =>
      simp only [textAll, List.cons_append, List.append_assoc, List.cons.injEq, true_and] at h
      obtain ⟨rfl, rest⟩ := text_append_inj hf.1 hg.1 (endsForm_textAll fs xs)
        (endsForm_textAll gs ys) h
      obtain ⟨rfl, rfl⟩ := textAll_append_inj hf.2 hg.2 rest
      exact ⟨rfl, rfl⟩

end

/-! ### Reading forms -/

/-- The shape of the expression that a word is. -/
def readWord (letters : List Char) : Expr :=
  if letters.head?.any Char.isDigit then .number (.emptyAt 0) (String.ofList letters)
  else
    match wordToken (String.ofList letters) with
    | .bool value => .bool (.emptyAt 0) value
    | _ => .name (.emptyAt 0) (String.ofList letters)

/-- The keyword that a tag is. -/
def keyword? (tag : List Char) : Option Keyword :=
  if tag = Keyword.mutable.spelling.toList then some .mutable
  else if tag = Keyword.constant.spelling.toList then some .constant
  else none

/-- The shape of the expression that a tag makes of two parts. -/
def join (tag : List Char) (left right : Expr) : Expr :=
  match keyword? tag, left with
  | some keyword, .name _ bound => .declaration (.emptyAt 0) keyword bound (.emptyAt 0) right
  | _, _ =>
    if tag = "apply".toList then .apply (.emptyAt 0) false (.emptyAt 0) left right
    else .binary (.emptyAt 0) (.ofSymbol (String.ofList tag)) (.emptyAt 0) left right

mutual

/-- The shape of the expression that a form shows. -/
def read : Form → Expr
  | word letters => readWord letters
  | quoted value => .text (.emptyAt 0) value
  | node tag parts =>
    if tag = "block".toList then .block (.emptyAt 0) (readAll parts)
    else
      match readAll parts with
      | [left, right] => join tag left right
      | _ => .unit (.emptyAt 0)

/-- The shapes of the expressions that forms show. -/
def readAll : List Form → List Expr
  | [] => []
  | part :: parts => part.read :: readAll parts

end

end Form

/-! ### Words and tags -/

theorem inWord_of_isNameContinue {c : Char} (h : Unicode.isNameContinue c = true) : InWord c := by
  constructor <;> rintro rfl <;> exact absurd h (by decide +kernel)

theorem inWord_of_isDigit {c : Char} (h : c.isDigit = true) : InWord c := by
  constructor <;> rintro rfl <;> exact absurd h (by decide)

theorem inWord_of_isOperatorChar {c : Char} (h : isOperatorChar c = true) : InWord c := by
  constructor <;> rintro rfl <;> exact absurd h (by decide)

theorem IsName.proper {s : String} (h : IsName s) : (Form.word s.toList).Proper := by
  obtain ⟨c, cs, hs⟩ := List.exists_cons_of_ne_nil h.ne_nil
  have start := h.start c (by rw [hs]; rfl)
  have others := h.others
  rw [hs] at others ⊢
  have first : Unicode.isNameContinue c = true := by
    rcases start with rfl | start
    · decide +kernel
    · exact Unicode.isNameContinue_of_isNameStart start
  refine ⟨⟨c, cs, rfl, ?_, ?_⟩, List.forall_mem_cons.2 ⟨inWord_of_isNameContinue first,
    fun d hd => inWord_of_isNameContinue (others d hd)⟩⟩
  all_goals
    rintro rfl
    exact absurd first (by decide +kernel)

/-- A number begins with a digit and has digits and a point in it. -/
theorem IsNumber.digits {s : String} (h : IsNumber s) : ∃ c cs, s.toList = c :: cs ∧
    c.isDigit = true ∧ ∀ d ∈ s.toList, d.isDigit = true ∨ d = '.' := by
  rcases h with ⟨ne, all⟩ | ⟨whole, fraction, hs, ⟨ne, all⟩, -, all'⟩
  · obtain ⟨c, cs, hs⟩ := List.exists_cons_of_ne_nil ne
    exact ⟨c, cs, hs, all c (by rw [hs]; exact List.mem_cons_self), fun d hd => .inl (all d hd)⟩
  · obtain ⟨c, cs, rfl⟩ := List.exists_cons_of_ne_nil ne
    refine ⟨c, cs ++ '.' :: fraction, hs, all c List.mem_cons_self, fun d hd => ?_⟩
    rw [hs] at hd
    rcases List.mem_append.1 hd with hd | hd
    · exact .inl (all d hd)
    · exact (List.mem_cons.1 hd).elim .inr fun hd => .inl (all' d hd)

theorem IsNumber.proper {s : String} (h : IsNumber s) : (Form.word s.toList).Proper := by
  obtain ⟨c, cs, hs, digit, all⟩ := h.digits
  refine ⟨⟨c, cs, hs, ?_, ?_⟩, fun d hd => ?_⟩
  · rintro rfl
    exact absurd digit (by decide)
  · rintro rfl
    exact absurd digit (by decide)
  · rcases all d hd with digit | rfl
    · exact inWord_of_isDigit digit
    · decide

theorem IsSymbol.inWord {s : String} (h : IsSymbol s) : ∀ c ∈ s.toList, InWord c := by
  rcases h with rfl | ⟨-, operator, -⟩
  · simp [InWord]
  · exact fun c hc => inWord_of_isOperatorChar (operator c hc)

/-- An operator is no word. -/
theorem IsSymbol.ne {s : String} (h : IsSymbol s) {c : Char} {cs : List Char}
    (letter : isOperatorChar c = false) (comma : c ≠ ',') : s.toList ≠ c :: cs := by
  intro same
  rcases h with rfl | ⟨-, operator, -⟩
  · exact comma (List.cons.inj same).1.symm
  · rw [operator c (by rw [same]; exact List.mem_cons_self)] at letter
    cases letter

/-- An operator is no keyword. -/
theorem IsSymbol.keyword?_eq_none {s : String} (h : IsSymbol s) :
    Form.keyword? s.toList = none := by
  have mutable : s.toList ≠ Keyword.mutable.spelling.toList := h.ne (by decide) (by decide)
  have constant : s.toList ≠ Keyword.constant.spelling.toList := h.ne (by decide) (by decide)
  rw [Form.keyword?, if_neg mutable, if_neg constant]

theorem IsName.readWord {s : String} (h : IsName s) :
    Form.readWord s.toList = .name (.emptyAt 0) s := by
  obtain ⟨c, cs, hs⟩ := List.exists_cons_of_ne_nil h.ne_nil
  have digit : s.toList.head?.any Char.isDigit = false := by
    rw [hs]
    rcases h.start c (by rw [hs]; rfl) with rfl | start
    · rfl
    · exact Unicode.not_isDigit_of_isNameStart start
  -- It would be read as another word only if it were one of the words that are no names.
  have plain : wordToken s = .name s := by
    have free := h.free
    simp only [List.mem_cons, List.not_mem_nil, or_false, not_or] at free
    simp [wordToken, free]
  rw [Form.readWord, digit, if_neg Bool.false_ne_true, String.ofList_toList, plain]

theorem IsNumber.readWord {s : String} (h : IsNumber s) :
    Form.readWord s.toList = .number (.emptyAt 0) s := by
  obtain ⟨c, cs, hs, digit, -⟩ := h.digits
  have first : s.toList.head?.any Char.isDigit = true := by
    rw [hs]
    exact digit
  rw [Form.readWord, if_pos first, String.ofList_toList]

/-! ### The form of an expression -/

namespace Expr

mutual

/-- The form of an expression. -/
def form : Expr → Form
  | .name _ spelling => .word spelling.toList
  | .unit _ => .node [] []
  | .number _ spelling => .word spelling.toList
  | .text _ value => .quoted value
  | .bool _ value => .word (if value then "true".toList else "false".toList)
  | .block _ statements => .node "block".toList (formAll statements)
  | .declaration _ keyword bound _ value =>
    .node keyword.spelling.toList [.word bound.toList, value.form]
  | .binary _ operator _ left right => .node operator.symbol.toList [left.form, right.form]
  | .apply _ curried _ function argument =>
    .node (if curried then "curry".toList else "apply".toList) [function.form, argument.form]

/-- The forms of expressions. -/
def formAll : List Expr → List Form
  | [] => []
  | e :: es => e.form :: formAll es

end

mutual

/-- The text of an expression is that of its form. -/
theorem text_form (e : Expr) : e.form.text = e.display := by
  cases e with
  | name | unit | number | text => rfl
  | bool span value => cases value <;> rfl
  | block span es =>
    rw [form, Form.text, textAll_formAll es, display_block, List.append_assoc]
    rfl
  | declaration span keyword bound boundSpan value =>
    rw [display_declaration, ← text_form value]
    simp only [form, Form.text, Form.textAll, List.cons_append, List.append_assoc, List.nil_append]
  | binary span operator operatorSpan left right =>
    rw [display_binary, ← text_form left, ← text_form right]
    simp only [form, Form.text, Form.textAll, List.cons_append, List.append_assoc, List.nil_append]
  | apply span curried anchor function argument =>
    rw [display_apply, ← text_form function, ← text_form argument]
    simp only [form, Form.text, Form.textAll, List.cons_append, List.append_assoc, List.nil_append]
    cases curried <;> rfl

theorem textAll_formAll (es : List Expr) : Form.textAll (formAll es) = displayAll es := by
  cases es with
  | nil => rfl
  | cons e es => rw [formAll, Form.textAll, displayAll, text_form e, textAll_formAll es]

end

mutual

theorem Legible.proper {e : Expr} (h : e.Legible) : e.form.Proper := by
  cases e with
  | name span spelling => exact IsName.proper h
  | unit => exact ⟨List.forall_mem_nil _, trivial⟩
  | number span spelling => exact IsNumber.proper h
  | text => trivial
  | bool span value => cases value <;> exact ⟨⟨_, _, rfl, by decide, by decide⟩, by simp [InWord]⟩
  | block span es => exact ⟨by simp [InWord], LegibleAll.proper h⟩
  | declaration span keyword bound boundSpan value =>
    have tag : ∀ c ∈ keyword.spelling.toList, InWord c := by
      cases keyword <;> simp [Keyword.spelling, InWord]
    exact ⟨tag, h.1.proper, Legible.proper h.2, trivial⟩
  | binary span operator operatorSpan left right =>
    obtain ⟨symbol, -, hleft, hright⟩ := h
    exact ⟨symbol.inWord, Legible.proper hleft, Legible.proper hright, trivial⟩
  | apply span curried anchor function argument =>
    obtain ⟨rfl, hfunction, hargument⟩ := h
    exact ⟨by simp [InWord], Legible.proper hfunction, Legible.proper hargument, trivial⟩

theorem LegibleAll.proper {es : List Expr} (h : LegibleAll es) : Form.ProperAll (formAll es) := by
  cases es with
  | nil => trivial
  | cons e es => exact ⟨Legible.proper h.1, LegibleAll.proper h.2⟩

end

mutual

/-- **The form of a legible expression is read as its shape.** -/
theorem Legible.read_form {e : Expr} (h : e.Legible) : e.form.read = e.bare := by
  cases e with
  | name span spelling => exact IsName.readWord h
  | unit => rfl
  | number span spelling => exact IsNumber.readWord h
  | text => rfl
  | bool span value => cases value <;> rfl
  | block span es =>
    rw [form, Form.read, if_pos rfl, LegibleAll.readAll_formAll h, bare_block]
  | declaration span keyword bound boundSpan value =>
    obtain ⟨name, hvalue⟩ := h
    have tag : keyword.spelling.toList ≠ "block".toList := by cases keyword <;> decide
    have word : Form.keyword? keyword.spelling.toList = some keyword := by cases keyword <;> rfl
    rw [form, Form.read, if_neg tag, Form.readAll, Form.readAll, Form.readAll,
      Legible.read_form hvalue, Form.read, name.readWord]
    simp only [Form.join, word]
    rfl
  | binary span operator operatorSpan left right =>
    obtain ⟨symbol, bound, hleft, hright⟩ := h
    have tag : operator.symbol.toList ≠ "block".toList := symbol.ne (by decide) (by decide)
    have application : operator.symbol.toList ≠ "apply".toList := symbol.ne (by decide) (by decide)
    rw [form, Form.read, if_neg tag, Form.readAll, Form.readAll, Form.readAll,
      Legible.read_form hleft, Legible.read_form hright]
    -- The binding of the operator is not in the text; its symbol tells it.
    simp only [Form.join, symbol.keyword?_eq_none, if_neg application, String.ofList_toList,
      ← bound]
    rfl
  | apply span curried anchor function argument =>
    obtain ⟨rfl, hfunction, hargument⟩ := h
    rw [form, Form.read, if_neg (by decide), Form.readAll, Form.readAll, Form.readAll,
      Legible.read_form hfunction, Legible.read_form hargument]
    rfl

theorem LegibleAll.readAll_formAll {es : List Expr} (h : LegibleAll es) :
    Form.readAll (formAll es) = es.map bare := by
  cases es with
  | nil => rfl
  | cons e es =>
    rw [formAll, Form.readAll, Legible.read_form h.1, LegibleAll.readAll_formAll h.2,
      List.map_cons]

end

/-- Legible expressions with one text have one shape. -/
theorem Legible.bare_eq_of_display_eq {e e' : Expr} (h : e.Legible) (h' : e'.Legible)
    (same : e.display = e'.display) : e.bare = e'.bare := by
  have ends : EndsForm [] := by simp [EndsForm]
  rw [← text_form, ← text_form] at same
  obtain ⟨form, -⟩ := Form.text_append_inj h.proper h'.proper ends ends (congrArg (· ++ []) same)
  rw [← h.read_form, ← h'.read_form, form]

end Expr

/-- **The text of what is read tells its shape.**  Two sources that are read, under any limits, as
expressions with one text are read as expressions that differ only in where their parts stand. -/
theorem bare_eq_of_toText_eq {limit limit' : Nat} {source source' : String} {e e' : Expr}
    (h : parseWithin limit source = .ok e) (h' : parseWithin limit' source' = .ok e')
    (same : e.toText = e'.toText) : e.bare = e'.bare :=
  (legible_of_parse h).bare_eq_of_display_eq (legible_of_parse h') (String.ofList_injective same)

/-- `bare_eq_of_toText_eq` for a declaration on two lines and on one, with and without parens. -/
theorem bare_eq_of_toText_eq_apart : ∃ e e',
    parseWithin 8 "let x =\n  f 1 + \"a\\n\"" = .ok e ∧
    parseWithin 9 "let x = (f (1)) + \"a\\n\" // c" = .ok e' ∧
    e.toText = e'.toText ∧ e.bare = e'.bare := by
  obtain ⟨e, h, text⟩ := exists_of_any (x := parseWithin 8 "let x =\n  f 1 + \"a\\n\"")
    (p := fun e => e.toText = "(let x (+ (apply f 1) \"a\\n\"))") (by decide +kernel)
  obtain ⟨e', h', text'⟩ := exists_of_any (x := parseWithin 9 "let x = (f (1)) + \"a\\n\" // c")
    (p := fun e => e.toText = "(let x (+ (apply f 1) \"a\\n\"))") (by decide +kernel)
  have same := (of_decide_eq_true text).trans (of_decide_eq_true text').symm
  exact ⟨e, e', h, h', same, bare_eq_of_toText_eq h h' same⟩

end Offside
