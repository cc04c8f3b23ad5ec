import Offside.Proofs.Legible

/-!
# Tokens are as long as they can be

A token stops where it has to: the character after it could not have belonged to it
(`maximal_of_mem_items`).  `Token.EndsBefore` says for each kind of token what may come next.  Words
and digits stop at the first character of another class, a number also at a point with no digit
after it, and an operator where a comment begins, although that begins with operator characters.

So a word is read as a whole, and is a name only if it is none of the other words.
-/

namespace Offside

/-! ### Where runs stop -/

/-- Past a run stands no character of it. -/
theorem not_of_takeWhile_append {p : Char → Bool} {cs after : List Char}
    (split : cs = cs.takeWhile p ++ after) : ∀ c ∈ after.head?, p c = false := by
  have rest : cs.dropWhile p = after :=
    List.append_cancel_left (List.takeWhile_append_dropWhile.trans split)
  intro c hc
  have stop := List.head?_dropWhile_not p cs
  rw [rest, Option.mem_def.1 hc] at stop
  exact stop

/-- A run of operator characters stops at another character or where a comment begins. -/
theorem comment_of_operatorRun_append {cs after : List Char}
    (split : cs = operatorRun cs ++ after) :
    ∀ c ∈ after.head?, isOperatorChar c = true → ['/', '/'] <+: after := by
  induction cs with
  | nil => simp_all
  | cons d ds ih =>
    rw [operatorRun] at split
    split at split
    · exact ih (List.cons.inj split).2
    · next stop =>
      obtain rfl : after = d :: ds := split.symm
      intro c first operator
      obtain rfl : d = c := Option.some.inj first
      -- An operator character stops the run only if it begins a comment.
      simp only [operator, Bool.true_and, Bool.not_eq_true, Bool.not_eq_false',
        Bool.and_eq_true, beq_iff_eq] at stop
      obtain ⟨rfl, next⟩ := stop
      obtain ⟨tail, rfl⟩ := List.head?_eq_some_iff.1 next
      exact List.prefix_append ['/', '/'] tail

/-- A number stops before another character than a digit, and before a point only if no digit comes
after that or the number has a point already. -/
theorem not_digit_of_numberRun_append {cs after : List Char} (split : cs = numberRun cs ++ after) :
    (∀ c ∈ after.head?, c.isDigit = false) ∧
      ('.' ∉ numberRun cs → ∀ d ds, after = '.' :: d :: ds → d.isDigit = false) := by
  have whole : cs.takeWhile Char.isDigit ++ cs.dropWhile Char.isDigit = numberRun cs ++ after :=
    List.takeWhile_append_dropWhile.trans split
  rw [numberRun, List.append_assoc, List.append_right_inj] at whole
  have bare (rest : cs.dropWhile Char.isDigit = after) : ∀ c ∈ after.head?, c.isDigit = false :=
    not_of_takeWhile_append (by rw [← rest, List.takeWhile_append_dropWhile])
  rw [numberRun]
  split at whole
  · next d ds point =>
    rw [point] at whole
    split at whole
    · next digit => exact ⟨not_of_takeWhile_append (List.cons.inj whole).2, by simp [digit]⟩
    · next other =>
      refine ⟨bare (point.trans whole), fun _ e es same => ?_⟩
      obtain ⟨-, rfl, -⟩ : '.' = '.' ∧ d = e ∧ ds = es := by simpa using whole.trans same
      simpa using other
  · next none =>
    refine ⟨bare whole, fun _ d ds same => ?_⟩
    exact absurd (whole.trans same) (none d ds)

/-! ### Tokens -/

namespace Token

/-- Whether a token may end before `after`, if it is to be as long as possible. -/
def EndsBefore (after : List Char) : Token → Prop
  | comment => ∀ c ∈ after.head?, c = '\r' ∨ c = '\n'
  | name _ | bool _ | keyword _ | generic _ => ∀ c ∈ after.head?, Unicode.isNameContinue c = false
  | number digits => (∀ c ∈ after.head?, c.isDigit = false) ∧
      ('.' ∉ digits.toList → ∀ d ds, after = '.' :: d :: ds → d.isDigit = false)
  | operator symbol => symbol ≠ "," →
      ∀ c ∈ after.head?, isOperatorChar c = true → ['/', '/'] <+: after
  | newline | text _ | opening _ | closing _ => True

/-- Whether a token is of one kind only: an operator in which no comment begins, and a name that is
none of the other words. -/
def Unmixed : Token → Prop
  | operator symbol => ¬['/', '/'] <:+: symbol.toList
  | name spelling => spelling ∉ ["true", "false", "let", "const"]
  | _ => True

end Token

section

variable {c : Char} {cs after : List Char} {t : Token}

theorem endsBefore_comment
    (split : cs = (cs.takeWhile fun d => d ≠ '\r' ∧ d ≠ '\n') ++ after) :
    Token.comment.EndsBefore after := by
  intro d first
  simpa [imp_iff_not_or] using not_of_takeWhile_append split d first

theorem endsBefore_wordToken (word : String)
    (split : cs = cs.takeWhile Unicode.isNameContinue ++ after) :
    (wordToken word).EndsBefore after := by
  have stop := not_of_takeWhile_append split
  unfold wordToken
  repeat' split
  all_goals exact stop

theorem endsBefore_bracketToken (h : bracketToken c = some t) : t.EndsBefore after := by
  unfold bracketToken at h
  repeat' split at h
  all_goals cases h
  all_goals trivial

theorem endsBefore_scanGeneric (split : c :: cs = (scanGeneric cs).consumed ++ after)
    (lexeme : (scanGeneric cs).lexeme = .token t) : t.EndsBefore after := by
  unfold scanGeneric at split lexeme
  split at lexeme
  · next d ds =>
    split at lexeme
    · next start =>
      simp only [if_pos start] at split
      cases lexeme
      exact not_of_takeWhile_append (List.cons.inj (List.cons.inj split).2).2
    · cases lexeme
  · cases lexeme

theorem endsBefore_scanPlain (split : c :: cs = (scanPlain c cs).consumed ++ after)
    (lexeme : (scanPlain c cs).lexeme = .token t) : t.EndsBefore after := by
  unfold scanPlain at split lexeme
  split at lexeme
  · next bracket =>
    cases lexeme
    exact endsBefore_bracketToken bracket
  next plain =>
  rw [plain] at split
  split at lexeme
  · cases lexeme
    exact fun other => absurd rfl other
  next comma =>
  simp only [if_neg comma] at split
  split at lexeme
  · next digit =>
    simp only [if_pos digit] at split
    cases lexeme
    obtain ⟨digits, point⟩ := not_digit_of_numberRun_append (List.cons.inj split).2
    refine ⟨digits, fun none => point fun mem => none ?_⟩
    simpa using .inr mem
  next digit =>
  simp only [if_neg digit] at split
  split at lexeme
  · next operator =>
    simp only [if_pos operator] at split
    cases lexeme
    exact fun _ => comment_of_operatorRun_append (List.cons.inj split).2
  next operator =>
  simp only [if_neg operator] at split
  split at lexeme
  · next start =>
    simp only [if_pos start] at split
    obtain rfl := Lexeme.token.inj lexeme
    exact endsBefore_wordToken _ (List.cons.inj split).2
  · cases lexeme

/-- **A token that is scanned ends where it has to.** -/
theorem endsBefore_of_scan {s : Scan} (h : scan c cs = some s)
    (split : c :: cs = s.consumed ++ after) (lexeme : s.lexeme = .token t) :
    t.EndsBefore after := by
  rcases scan_cases h with (⟨-, rfl⟩ | ⟨-, -, rfl⟩) | ⟨-, -, rfl⟩ | rfl | rfl | rfl
  · cases lexeme
    trivial
  · cases lexeme
    trivial
  · cases lexeme
    exact endsBefore_comment (List.cons.inj split).2
  · unfold TextScan.toScan at lexeme
    split at lexeme <;> cases lexeme
    trivial
  · exact endsBefore_scanGeneric split lexeme
  · exact endsBefore_scanPlain split lexeme

theorem unmixed_of_spellable (h : t.Spellable) : t.Unmixed := by
  cases t with
  | operator symbol =>
    rcases h with rfl | ⟨-, -, apart⟩
    · exact fun h => absurd h.length_le (by decide)
    · exact apart
  | name spelling => exact h.free
  | _ => trivial

end

/-! ### Sources -/

/-- The text of a source that stands past an item. -/
def Item.textAfter (source : List Char) (item : Item) : Option (List Char) :=
  dropBytes? item.span.stop source

theorem textAfter_itemOf (before after : List Char) (s : Scan) :
    (Rest.itemOf (Position.origin.advanceAll before) s).textAfter
      (before ++ (s.consumed ++ after)) = some after := by
  have stop : (Rest.itemOf (Position.origin.advanceAll before) s).span.stop =
      byteLength (before ++ s.consumed) := by
    simp only [Item.span, Rest.itemOf, Span.stop, Scan.consumed, Position.offset_advanceAll,
      Position.origin, byteLength_append, Nat.zero_add, Nat.add_assoc]
  rw [Item.textAfter, stop, ← List.append_assoc, dropBytes?_append]

/-- **Tokens are maximal.**  What comes after a token could not have been read as a part of it, no
comment begins in an operator, and no name is one of the other words. -/
theorem maximal_of_mem_items {source : List Char} {item : Item} {t : Token}
    (h : item ∈ items source) (lexeme : item.lexeme = .token t) :
    (∃ after, item.textAfter source = some after ∧ t.EndsBefore after) ∧ t.Unmixed := by
  obtain ⟨before, c, cs, s, after, rfl, split, scanned, rfl⟩ :=
    (lexes_items source).scanned_mem h
  refine ⟨⟨after, textAfter_itemOf before after s, endsBefore_of_scan scanned split lexeme⟩, ?_⟩
  by_cases comment : t = .comment
  · rw [comment]
    trivial
  · exact unmixed_of_spellable (spellable_of_scan scanned lexeme comment)

/-- `maximal_of_mem_items` for an operator that stops at the second of four operator characters,
where a comment begins. -/
theorem maximal_of_mem_items_operator :
    let source := "x*/// y".toList
    let star : Item := ⟨.token (.operator "*"), ⟨1, 1, 1⟩, 1⟩
    star ∈ items source ∧ star.textAfter source = some "/// y".toList ∧
      (Token.operator "*").EndsBefore "/// y".toList ∧ (Token.operator "*").Unmixed := by
  intro source star
  have mem : star ∈ items source := by decide +kernel
  have text : star.textAfter source = some "/// y".toList := by decide
  obtain ⟨⟨after, same, ends⟩, unmixed⟩ := maximal_of_mem_items mem rfl
  obtain rfl := Option.some.inj (same.symm.trans text)
  exact ⟨mem, text, ends, unmixed⟩

end Offside
