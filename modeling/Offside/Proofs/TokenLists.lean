import Offside.Proofs.Spelling

/-!
# Lists of tokens as they are written

Each token but a comment has one spelling that stands for the others (`Token.spelling`).  Written
one after the other with single spaces in between, tokens are read back as they were, each with the
span of its spelling and without an error (`items_spelled`), if they can be spelled at all
(`Token.Spellable`).
-/

namespace Offside

/-! ### Spellings of tokens -/

/-- Whether a text is the name of a generic marker. -/
structure IsMarker (s : String) : Prop where
  /-- It is not empty. -/
  ne_nil : s.toList ≠ []
  /-- It begins like a name, but with no underscore. -/
  start : ∀ c ∈ s.toList.head?, Unicode.isNameStart c = true
  /-- It goes on like a name. -/
  others : ∀ c ∈ s.toList.tail, Unicode.isNameContinue c = true

namespace Token

/-- A token as it is written. -/
def spelling : Token → List Char
  | comment => ['/', '/']
  | newline => ['\n']
  | name s => s.toList
  | number s => s.toList
  | text value => quote value
  | bool value => if value then "true".toList else "false".toList
  | operator symbol => symbol.toList
  | generic marker => '\x27' :: marker.toList
  | keyword word => word.spelling.toList
  | opening bracket => [bracket.openSign]
  | closing bracket => [bracket.closeSign]

/-- Whether a token can be spelled.  A comment cannot: it takes what follows it on its line. -/
def Spellable : Token → Prop
  | comment => False
  | name s => IsName s
  | number s => IsNumber s
  | operator symbol => IsSymbol symbol
  | generic marker => IsMarker marker
  | newline | text _ | bool _ | keyword _ | opening _ | closing _ => True

end Token

theorem spells_generic {s : String} (h : IsMarker s) :
    Spells ('\x27' :: s.toList) (.generic s) := by
  obtain ⟨ne, start, others⟩ := h
  obtain ⟨c, cs, hs⟩ := List.exists_cons_of_ne_nil ne
  rw [hs] at start others
  have run : cs.takeWhile Unicode.isNameContinue = cs := List.takeWhile_eq_self_iff.2 others
  have marker : scanGeneric (c :: cs) = .token (.generic s) ('\x27' :: c :: cs) := by
    rw [scanGeneric, if_pos (start c rfl), run]
    dsimp only
    rw [← hs, String.ofList_toList]
  rw [hs]
  refine ⟨'\x27', c :: cs, rfl, ?_⟩
  rw [← marker]
  simp [scan, show Unicode.isBlank '\x27' = false by decide]

theorem spells_newline : Spells ['\n'] .newline := ⟨'\n', [], rfl, rfl⟩

theorem spells_opening (bracket : Bracket) : Spells [bracket.openSign] (.opening bracket) := by
  cases bracket <;> exact ⟨_, [], rfl, rfl⟩

theorem spells_closing (bracket : Bracket) : Spells [bracket.closeSign] (.closing bracket) := by
  cases bracket <;> exact ⟨_, [], rfl, rfl⟩

/-- **A token is scanned from its spelling.** -/
theorem Token.Spellable.spells {t : Token} (h : t.Spellable) : Spells t.spelling t := by
  cases t with
  | comment => exact h.elim
  | newline => exact spells_newline
  | name s => exact spells_name h
  | number s => exact spells_number h
  | text value => exact spells_text value
  | bool value => exact spells_bool value
  | operator symbol => exact spells_operator h
  | generic marker => exact spells_generic h
  | keyword word => exact spells_keyword word
  | opening bracket => exact spells_opening bracket
  | closing bracket => exact spells_closing bracket

theorem Token.Spellable.ne_comment {t : Token} (h : t.Spellable) : t ≠ .comment := by
  rintro rfl
  exact h

/-! ### Tokens one after the other -/

/-- Tokens as they are written, with single spaces in between. -/
def spelled (ts : List Token) : List Char := List.intercalate [' '] (ts.map Token.spelling)

theorem spelled_singleton (t : Token) : spelled [t] = t.spelling := by
  simp [spelled]

theorem spelled_cons_cons (t u : Token) (ts : List Token) :
    spelled (t :: u :: ts) = t.spelling ++ ' ' :: spelled (u :: ts) := by
  simp [spelled, List.intercalate]

/-- What is read where tokens are written with single spaces in between, the first one at `offset`:
the tokens, each with the span of its spelling. -/
def spelledFrom (offset : Nat) : List Token → List (Lexeme × Span)
  | [] => []
  | t :: ts =>
    let span : Span := ⟨offset, byteLength t.spelling⟩
    (.token t, span) :: spelledFrom (span.stop + 1) ts

/-- Written tokens fall into items that say what they are and cover their spellings. -/
theorem exists_falls_spelled {ts : List Token} (h : ∀ t ∈ ts, t.Spellable) (p : Position) :
    ∃ its, Falls p (spelled ts) its ∧
      its.map (fun item => (item.lexeme, item.span)) = spelledFrom p.offset ts := by
  induction ts generalizing p with
  | nil => exact ⟨[], ⟨itemsFrom_nil p, by simp [Quiet]⟩, rfl⟩
  | cons t ts ih =>
    rw [List.forall_mem_cons] at h
    have first := Falls.of_spells h.1.spells h.1.ne_comment p
    cases ts with
    | nil =>
      rw [spelled_singleton]
      exact ⟨_, first, rfl⟩
    | cons u ts =>
      obtain ⟨its, others, eq⟩ := ih h.2 (p.advanceAll (t.spelling ++ [' ']))
      rw [spelled_cons_cons]
      refine ⟨_, first.space others, ?_⟩
      have next : (p.advanceAll (t.spelling ++ [' '])).offset =
          p.offset + byteLength t.spelling + 1 := by
        rw [Position.offset_advanceAll, byteLength_append, ← Nat.add_assoc]
        rfl
      rw [next] at eq
      rw [List.map_append, eq]
      rfl

/-- **Tokens that are written with single spaces in between are read back**, each with the span of
its spelling, and nothing else is. -/
theorem items_spelled {ts : List Token} (h : ∀ t ∈ ts, t.Spellable) :
    (items (spelled ts)).map (fun item => (item.lexeme, item.span)) = spelledFrom 0 ts := by
  obtain ⟨its, falls, eq⟩ := exists_falls_spelled h .origin
  rw [items_eq_itemsFrom, falls.eq]
  exact eq

/-- `items_spelled` for a text that has to be escaped between tokens that would run together. -/
theorem items_spelled_text :
    let ts : List Token := [.keyword .constant, .name "_é1", .operator "=", .newline, .number "1.5",
      .operator "./", .operator ",", .text "\"\n// \\", .generic "a", .bool true, .opening .curly]
    (∀ t ∈ ts, t.Spellable) ∧
      (items (spelled ts)).map (fun item => (item.lexeme, item.span)) = spelledFrom 0 ts := by
  intro ts
  have name : IsName "_é1" := by decide +kernel
  have number : IsNumber "1.5" :=
    .inr ⟨['1'], ['5'], rfl, ⟨by decide, List.all_eq_true.1 (by decide)⟩,
      ⟨by decide, List.all_eq_true.1 (by decide)⟩⟩
  have assign : IsSymbol "=" := .inr ⟨by decide, List.all_eq_true.1 (by decide), by decide⟩
  have slash : IsSymbol "./" := .inr ⟨by decide, List.all_eq_true.1 (by decide), by decide⟩
  have marker : IsMarker "a" :=
    ⟨by decide, by simpa using show Unicode.isNameStart 'a' = true by decide +kernel, by simp⟩
  have spellable : ∀ t ∈ ts, t.Spellable := by
    simp only [ts, List.forall_mem_cons]
    exact ⟨trivial, name, assign, trivial, number, slash, .inl rfl, trivial, marker, trivial,
      trivial, fun _ h => nomatch h⟩
  exact ⟨spellable, items_spelled spellable⟩

end Offside
