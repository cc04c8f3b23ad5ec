import Offside.Proofs.Lexing

/-!
# The items of joined texts

`itemsFrom p text` are the items of a text that begins at the position `p`.

* A scan does not look past a separator (`scan_append`), so the items of two texts with a separator
  in between are those of one and then those of the other (`itemsFrom_append_separator`), and so
  with a line feed in between, which makes one more item (`itemsFrom_append_newline`).
* The items of a text do not depend on where it begins but for their positions
  (`forall₂_itemsFrom`).
* Among the items of a text of one line no line break is (`not_isNewline_of_line`), and their
  columns do not go back (`isChain_column`).
-/

namespace Offside

/-! ### Items from a position -/

/-- The items of a text that begins at `p`. -/
def itemsFrom (p : Position) (text : List Char) : List Item := (Rest.mk p text).items

theorem items_eq_itemsFrom (source : List Char) : items source = itemsFrom .origin source := rfl

variable {p q : Position} {c d : Char} {cs xs ys : List Char} {s : Scan}

@[simp] theorem itemsFrom_nil (p : Position) : itemsFrom p [] = [] := Rest.items_of_none rfl

/-- A blank makes no item. -/
theorem itemsFrom_of_blank (h : scan c cs = none) :
    itemsFrom p (c :: cs) = itemsFrom (p.advance c) cs := by
  have next : (Rest.mk p (c :: cs)).next? = (Rest.mk (p.advance c) cs).next? := by
    rw [Rest.next?, Rest.nextFrom?, h, Rest.next?]
  cases hn : (Rest.mk (p.advance c) cs).next? with
  | none => rw [itemsFrom, itemsFrom, Rest.items_of_none (next.trans hn), Rest.items_of_none hn]
  | some r => rw [itemsFrom, itemsFrom, Rest.items_of_some (next.trans hn), Rest.items_of_some hn]

/-- A scan makes an item. -/
theorem itemsFrom_of_scan (h : scan c cs = some s) (split : c :: cs = s.consumed ++ ys) :
    itemsFrom p (c :: cs) = Rest.itemOf p s :: itemsFrom (p.advanceAll s.consumed) ys := by
  have next : (Rest.mk p (c :: cs)).next? =
      some (Rest.itemOf p s, ⟨p.advanceAll s.consumed, ys⟩) := by
    rw [Rest.next?, Rest.nextFrom?, h]
    dsimp only
    rw [split, List.drop_left]
  rw [itemsFrom, Rest.items_of_some next, itemsFrom]

/-- A line feed makes an item. -/
theorem itemsFrom_newline : itemsFrom p ('\n' :: ys) =
    Rest.itemOf p (.token .newline ['\n']) :: itemsFrom (p.advance '\n') ys :=
  itemsFrom_of_scan (by simp [scan]) rfl

/-- A space makes no item. -/
theorem itemsFrom_space : itemsFrom p (' ' :: ys) = itemsFrom (p.advance ' ') ys :=
  itemsFrom_of_blank (by simp [scan, show Unicode.isBlank ' ' = true by decide])

/-- Spaces make no items. -/
theorem itemsFrom_indent (p : Position) (width : Nat) (text : List Char) :
    itemsFrom p (List.replicate width ' ' ++ text) =
      itemsFrom (p.advanceAll (List.replicate width ' ')) text := by
  induction width generalizing p with
  | zero => rfl
  | succ width ih =>
    rw [List.replicate_succ, List.cons_append, itemsFrom_space, ih, Position.advanceAll_cons]

theorem column_indent (p : Position) (width : Nat) :
    (p.advanceAll (List.replicate width ' ')).column = p.column + width := by
  rw [Position.column_advanceAll p (by simp), List.length_replicate]

/-- A text is read blank by blank and scan by scan. -/
theorem scan_induction {motive : List Char → Prop} (nil : motive [])
    (blank : ∀ c cs, scan c cs = none → motive cs → motive (c :: cs))
    (item : ∀ c cs s after, scan c cs = some s → s.consumed ++ after = c :: cs → motive after →
      motive (c :: cs)) (text : List Char) : motive text := by
  induction hn : text.length using Nat.strongRecOn generalizing text with
  | ind n ih =>
    cases text with
    | nil => exact nil
    | cons c cs =>
      cases hs : scan c cs with
      | none => exact blank c cs hs (ih cs.length (by simp [← hn]) cs rfl)
      | some s =>
        obtain ⟨after, split⟩ := scan_isPrefix hs
        have lengths := congrArg List.length split
        have pos := List.length_pos_iff.2 (scan_body_ne_nil hs)
        simp only [List.length_append, Scan.consumed] at lengths
        exact item c cs s after hs split (ih after.length (by omega) after rfl)

/-! ### Separators -/

/-- Whether a character goes on with no name, number or operator. -/
def isSeparator (d : Char) : Bool := !Unicode.isNameContinue d && !isOperatorChar d

theorem not_isNameContinue_of_isSeparator (h : isSeparator d = true) :
    Unicode.isNameContinue d = false := by
  simp_all [isSeparator]

theorem not_isOperatorChar_of_isSeparator (h : isSeparator d = true) :
    isOperatorChar d = false := by
  simp_all [isSeparator]

theorem not_isDigit_of_isSeparator (h : isSeparator d = true) : d.isDigit = false := by
  have := not_isNameContinue_of_isSeparator h
  simp_all [Unicode.isNameContinue]

theorem ne_of_isSeparator (h : isSeparator d = true) (hc : isOperatorChar c = true) : d ≠ c := by
  rintro rfl
  rw [not_isOperatorChar_of_isSeparator h] at hc
  cases hc

theorem isSeparator_space : isSeparator ' ' = true := by decide +kernel

theorem isSeparator_newline : isSeparator '\n' = true := by decide +kernel

theorem isSeparator_close : isSeparator ')' = true := by decide +kernel

/-! ### A scan stops at a separator -/

theorem takeWhile_append_cons {p : Char → Bool} (h : p d = false) (cs ys : List Char) :
    (cs ++ d :: ys).takeWhile p = cs.takeWhile p := by
  induction cs with
  | nil => simp [h]
  | cons c cs ih => simp only [List.cons_append, List.takeWhile_cons, ih]

theorem dropWhile_append_cons {p : Char → Bool} (h : p d = false) (cs ys : List Char) :
    (cs ++ d :: ys).dropWhile p = cs.dropWhile p ++ d :: ys := by
  induction cs with
  | nil => simp [h]
  | cons c cs ih =>
    rw [List.cons_append, List.dropWhile_cons, List.dropWhile_cons, ih]
    split <;> rfl

theorem head?_append_cons (h : d ≠ c) (cs ys : List Char) :
    (cs ++ d :: ys).head? = some c ↔ cs.head? = some c := by
  cases cs <;> simp [h]

theorem operatorRun_append (h : isSeparator d = true) (cs ys : List Char) :
    operatorRun (cs ++ d :: ys) = operatorRun cs := by
  induction cs with
  | nil => simp [operatorRun, not_isOperatorChar_of_isSeparator h]
  | cons c cs ih =>
    have slash : ((cs ++ d :: ys).head? == some '/') = (cs.head? == some '/') := by
      rw [Bool.eq_iff_iff, beq_iff_eq, beq_iff_eq]
      exact head?_append_cons (ne_of_isSeparator h (by decide)) cs ys
    rw [List.cons_append, operatorRun, operatorRun, ih, slash]

theorem numberRun_append (h : isSeparator d = true) (cs ys : List Char) :
    numberRun (cs ++ d :: ys) = numberRun cs := by
  have digit := not_isDigit_of_isSeparator h
  have point : d ≠ '.' := ne_of_isSeparator h (by decide)
  rw [numberRun, numberRun, takeWhile_append_cons digit, dropWhile_append_cons digit]
  congr 1
  -- The separator stands where the digits end, after a point, or past both.
  cases cs.dropWhile Char.isDigit with
  | nil => simp [point]
  | cons c es =>
    by_cases hc : c = '.'
    · subst hc
      cases es with
      | nil => simp [digit]
      | cons e es =>
        simp only [List.cons_append]
        rw [← List.cons_append, takeWhile_append_cons digit]
    · simp [hc]

/-- A character that neither ends a text nor begins an escape stands for itself. -/
theorem scanText_cons (newline : c ≠ '\n') (quote : c ≠ '"') (backslash : c ≠ '\\') :
    scanText (c :: cs) = (scanText cs).cons c [c] := by
  rw [scanText] <;> simp_all

theorem scanText_append (h : (scanText cs).ending = .closed) (ys : List Char) :
    scanText (cs ++ ys) = scanText cs := by
  fun_induction scanText cs with
  | case1 => cases h
  | case2 => cases h
  | case3 cs => simp [scanText]
  | case4 => cases h
  | case5 c cs e he ih =>
    rw [List.cons_append, List.cons_append, scanText, he]
    dsimp only
    rw [ih h]
  | case6 => cases h
  | case7 c cs newline quote alone escape ih =>
    have backslash : c ≠ '\\' := by
      rintro rfl
      cases cs with
      | nil => exact alone rfl rfl
      | cons d ds => exact escape d ds rfl rfl
    rw [List.cons_append, scanText_cons newline quote backslash, ih h]

theorem scanPlain_append (h : isSeparator d = true) (cs ys : List Char) :
    scanPlain c (cs ++ d :: ys) = scanPlain c cs := by
  have name := not_isNameContinue_of_isSeparator h
  simp only [scanPlain, numberRun_append h, operatorRun_append h, takeWhile_append_cons name]

/-- **A token is scanned alike with a separator after the text**; after a comment it has to end the
line. -/
theorem scan_append {t : Token} (h : isSeparator d = true) (hs : scan c cs = some s)
    (lexeme : s.lexeme = .token t) (comment : t = .comment → d = '\n' ∨ d = '\r')
    (ys : List Char) :
    scan c (cs ++ d :: ys) = some s := by
  have slash : (cs ++ d :: ys).head? = some '/' ↔ cs.head? = some '/' :=
    head?_append_cons (ne_of_isSeparator h (by decide)) cs ys
  unfold scan at hs ⊢
  split at hs
  · next hc =>
    rw [if_pos hc]
    exact hs
  next hc =>
  rw [if_neg hc]
  split at hs
  · next hr =>
    obtain ⟨tail, rfl⟩ := List.head?_eq_some_iff.1 hr.2
    rw [if_pos ⟨hr.1, rfl⟩]
    exact hs
  next hr =>
  split at hs
  · cases hs
  next hb =>
  have blank : ¬(c = '\r' ∧ (cs ++ d :: ys).head? = some '\n') := by
    rintro ⟨rfl, -⟩
    exact hb (by decide)
  rw [if_neg blank, if_neg hb]
  split at hs
  · next hslash =>
    obtain rfl := Option.some.inj hs
    have ends : decide (d ≠ '\r' ∧ d ≠ '\n') = false := by
      rcases comment (Lexeme.token.inj lexeme).symm with rfl | rfl <;> rfl
    rw [if_pos ⟨hslash.1, slash.2 hslash.2⟩, takeWhile_append_cons ends]
  next hslash =>
  rw [if_neg (fun hc => hslash ⟨hc.1, slash.1 hc.2⟩)]
  split at hs
  · next hq =>
    obtain rfl := Option.some.inj hs
    have closed : (scanText cs).ending = .closed := by
      unfold TextScan.toScan at lexeme
      split at lexeme
      · assumption
      · cases lexeme
      · cases lexeme
    rw [if_pos hq, scanText_append closed]
  next hq =>
  rw [if_neg hq]
  split at hs
  · next hg =>
    obtain rfl := Option.some.inj hs
    rw [if_pos hg]
    cases cs with
    | nil => cases lexeme
    | cons e es =>
      have name := not_isNameContinue_of_isSeparator h
      simp only [List.cons_append, scanGeneric, takeWhile_append_cons name]
  · next hg =>
    rw [if_neg hg, scanPlain_append h]
    exact hs

/-- A blank stays a blank with a separator after the text, unless the two are one line break. -/
theorem scan_append_of_blank (hs : scan c cs = none) (line : ¬(c = '\r' ∧ cs = [] ∧ d = '\n'))
    (ys : List Char) : scan c (cs ++ d :: ys) = none := by
  obtain ⟨blank, newline⟩ := blank_of_scan_eq_none hs
  have apart : ¬(c = '\r' ∧ (cs ++ d :: ys).head? = some '\n') := by
    rintro ⟨rfl, hd⟩
    cases cs with
    | nil => exact line ⟨rfl, rfl, by simpa using hd⟩
    | cons e es =>
      obtain rfl : e = '\n' := by simpa using hd
      simp [scan] at hs
  rw [scan, if_neg newline, if_neg apart, if_pos blank]

/-! ### Texts one after the other -/

/-- That items are tokens, and none of them a comment unless the line ends there. -/
def EndsAt (d : Char) (items : List Item) : Prop :=
  ∀ item ∈ items, ∃ t, item.lexeme = .token t ∧ (t = .comment → d = '\n' ∨ d = '\r')

theorem itemsFrom_append (hd : isSeparator d = true) (p : Position) (xs ys : List Char)
    (quiet : EndsAt d (itemsFrom p xs)) :
    itemsFrom p (xs ++ d :: ys) = itemsFrom p xs ++ itemsFrom (p.advanceAll xs) (d :: ys) ∨
      d = '\n' ∧ ∃ nl, nl.lexeme = .token .newline ∧ itemsFrom p (xs ++ d :: ys) =
        itemsFrom p xs ++ nl :: itemsFrom (p.advanceAll (xs ++ [d])) ys := by
  induction xs using scan_induction generalizing p with
  | nil => exact .inl (by simp)
  | blank c cs hs ih =>
    by_cases line : c = '\r' ∧ cs = [] ∧ d = '\n'
    · -- A carriage return at the end makes one line break with the line feed.
      obtain ⟨rfl, rfl, rfl⟩ := line
      have scanned : scan '\r' ('\n' :: ys) = some (.token .newline ['\r', '\n']) := by
        simp [scan]
      refine .inr ⟨rfl, Rest.itemOf p (.token .newline ['\r', '\n']), rfl, ?_⟩
      rw [itemsFrom_of_blank hs, itemsFrom_nil]
      exact itemsFrom_of_scan scanned rfl
    · rw [itemsFrom_of_blank hs] at quiet ⊢
      rw [List.cons_append, itemsFrom_of_blank (scan_append_of_blank hs line ys)]
      exact ih (p.advance c) quiet
  | item c cs s after hs split ih =>
    rw [itemsFrom_of_scan hs split.symm] at quiet ⊢
    obtain ⟨⟨t, lexeme, comment⟩, quiet⟩ := List.forall_mem_cons.1 quiet
    have joined : c :: (cs ++ d :: ys) = s.consumed ++ (after ++ d :: ys) := by
      rw [← List.append_assoc, split, List.cons_append]
    rw [List.cons_append, itemsFrom_of_scan (scan_append hd hs lexeme comment ys) joined,
      ← split, List.append_assoc s.consumed, Position.advanceAll_append,
      Position.advanceAll_append]
    refine (ih _ quiet).imp (fun h => ?_) fun h => ?_
    · rw [h, List.cons_append]
    · obtain ⟨newline, nl, hnl, h⟩ := h
      exact ⟨newline, nl, hnl, by rw [h, List.cons_append]⟩

/-- That items are tokens, and none of them a comment. -/
def Quiet (items : List Item) : Prop :=
  ∀ item ∈ items, ∃ t, item.lexeme = .token t ∧ t ≠ .comment

/-- **The items of two texts with a separator in between** are those of the one and then those of
the other, if the separator is no line feed and no comment is among the first ones. -/
theorem itemsFrom_append_separator (hd : isSeparator d = true) (newline : d ≠ '\n')
    (quiet : Quiet (itemsFrom p xs)) (ys : List Char) :
    itemsFrom p (xs ++ d :: ys) = itemsFrom p xs ++ itemsFrom (p.advanceAll xs) (d :: ys) := by
  have ends : EndsAt d (itemsFrom p xs) := fun item hi =>
    (quiet item hi).imp fun t ht => ⟨ht.1, fun hc => absurd hc ht.2⟩
  exact (itemsFrom_append hd p xs ys ends).resolve_right fun h => newline h.1

/-- **The items of two texts with a line feed in between** have a line break in between. -/
theorem itemsFrom_append_newline
    (tokens : ∀ item ∈ itemsFrom p xs, ∃ t, item.lexeme = .token t) (ys : List Char) :
    ∃ nl, nl.lexeme = .token .newline ∧ itemsFrom p (xs ++ '\n' :: ys) =
      itemsFrom p xs ++ nl :: itemsFrom (p.advanceAll (xs ++ ['\n'])) ys := by
  have ends : EndsAt '\n' (itemsFrom p xs) := fun item hi =>
    (tokens item hi).imp fun t ht => ⟨ht, fun _ => .inl rfl⟩
  rcases itemsFrom_append isSeparator_newline p xs ys ends with h | ⟨-, h⟩
  · refine ⟨Rest.itemOf (p.advanceAll xs) (.token .newline ['\n']), rfl, h.trans ?_⟩
    rw [itemsFrom_newline, Position.advanceAll_append]
    rfl
  · exact h

/-! ### One text at two positions -/

/-- That two items are the same in a text that begins at `p` and at `q`. -/
structure Item.Twin (p q : Position) (text : List Char) (a b : Item) : Prop where
  /-- They say the same. -/
  lexeme : a.lexeme = b.lexeme
  /-- They are as long. -/
  length : a.length = b.length
  /-- They stand at the same place of the text. -/
  position : ∃ before, before <+: text ∧ a.position = p.advanceAll before ∧
    b.position = q.advanceAll before

theorem Item.Twin.of_append {a b : Item} {text : List Char} (front : List Char)
    (h : Twin (p.advanceAll front) (q.advanceAll front) text a b) :
    Twin p q (front ++ text) a b := by
  obtain ⟨lexeme, length, before, hb, ha, hq⟩ := h
  refine ⟨lexeme, length, front ++ before, (List.prefix_append_right_inj front).2 hb, ?_, ?_⟩
  · rw [ha, Position.advanceAll_append]
  · rw [hq, Position.advanceAll_append]

/-- **The items of a text are the same wherever it begins**, but for their positions. -/
theorem forall₂_itemsFrom (p q : Position) (text : List Char) :
    List.Forall₂ (Item.Twin p q text) (itemsFrom p text) (itemsFrom q text) := by
  induction text using scan_induction generalizing p q with
  | nil => simp
  | blank c cs hs ih =>
    rw [itemsFrom_of_blank hs, itemsFrom_of_blank hs]
    exact (ih (p.advance c) (q.advance c)).imp fun a b h => .of_append [c] h
  | item c cs s after hs split ih =>
    rw [itemsFrom_of_scan hs split.symm, itemsFrom_of_scan hs split.symm]
    refine .cons ⟨rfl, rfl, s.lead, ?_, rfl, rfl⟩ ?_
    · rw [← split, Scan.consumed, List.append_assoc]
      exact List.prefix_append _ _
    · rw [← split]
      exact (ih (p.advanceAll s.consumed) (q.advanceAll s.consumed)).imp fun a b h => .of_append _ h

/-- The column past a text depends on the column before it only. -/
theorem column_advanceAll_congr (h : p.column = q.column) (cs : List Char) :
    (p.advanceAll cs).column = (q.advanceAll cs).column := by
  induction cs generalizing p q with
  | nil => exact h
  | cons c cs ih =>
    refine ih ?_
    unfold Position.advance
    split
    · rfl
    · exact congrArg (· + 1) h

theorem Item.Twin.column_eq {a b : Item} {text : List Char} (h : Twin p q text a b)
    (columns : p.column = q.column) : a.column = b.column := by
  obtain ⟨before, -, ha, hb⟩ := h.position
  rw [Item.column, Item.column, ha, hb, column_advanceAll_congr columns]

theorem Item.Twin.start_eq {a b : Item} {text : List Char} {n : Nat} (h : Twin p q text a b)
    (offsets : q.offset = p.offset + n) : b.span.start = a.span.start + n := by
  obtain ⟨before, -, ha, hb⟩ := h.position
  simp only [Item.span, ha, hb, Position.offset_advanceAll]
  omega

/-- A text says the same wherever it begins. -/
theorem map_lexeme_itemsFrom (p q : Position) (text : List Char) :
    (itemsFrom p text).map Item.lexeme = (itemsFrom q text).map Item.lexeme := by
  have same : List.Forall₂ (· = ·) ((itemsFrom p text).map Item.lexeme)
      ((itemsFrom q text).map Item.lexeme) :=
    List.forall₂_map_left_iff.2 (List.forall₂_map_right_iff.2
      ((forall₂_itemsFrom p q text).imp fun _ _ h => h.lexeme))
  rwa [List.forall₂_eq_eq_eq] at same

/-! ### Texts of one line -/

theorem wordToken_not_trivia (word : String) :
    wordToken word ≠ .newline ∧ wordToken word ≠ .comment := by
  unfold wordToken
  repeat' split
  all_goals simp

theorem bracketToken_not_trivia (c : Char) :
    bracketToken c ≠ some .newline ∧ bracketToken c ≠ some .comment := by
  unfold bracketToken
  repeat' split
  all_goals simp

theorem scanPlain_not_trivia (c : Char) (cs : List Char) :
    (scanPlain c cs).lexeme ≠ .token .newline ∧ (scanPlain c cs).lexeme ≠ .token .comment := by
  unfold scanPlain
  split
  · next bracket hb =>
    have no := bracketToken_not_trivia c
    rw [hb] at no
    exact ⟨fun h => no.1 (congrArg some (Lexeme.token.inj h)),
      fun h => no.2 (congrArg some (Lexeme.token.inj h))⟩
  repeat' split
  · simp [Scan.token]
  · simp [Scan.token]
  · simp [Scan.token]
  · exact ⟨fun h => (wordToken_not_trivia _).1 (Lexeme.token.inj h),
      fun h => (wordToken_not_trivia _).2 (Lexeme.token.inj h)⟩
  · simp [Scan.error]

theorem toScan_not_trivia (scanned : TextScan) :
    scanned.toScan.lexeme ≠ .token .newline ∧ scanned.toScan.lexeme ≠ .token .comment := by
  unfold TextScan.toScan
  split <;> simp [Scan.token, Scan.error]

theorem scanGeneric_not_trivia (cs : List Char) :
    (scanGeneric cs).lexeme ≠ .token .newline ∧ (scanGeneric cs).lexeme ≠ .token .comment := by
  unfold scanGeneric
  repeat' split
  all_goals simp [Scan.token, Scan.error]

/-- What a scan yields: a line break, a comment, a text, a generic marker or anything else. -/
theorem scan_cases (h : scan c cs = some s) :
    (c = '\n' ∧ s = .token .newline ['\n'] ∨
        c = '\r' ∧ cs.head? = some '\n' ∧ s = .token .newline ['\r', '\n']) ∨
      (c = '/' ∧ cs.head? = some '/' ∧
        s = .token .comment ('/' :: cs.takeWhile fun d => d ≠ '\r' ∧ d ≠ '\n')) ∨
      s = (scanText cs).toScan ∨ s = scanGeneric cs ∨ s = scanPlain c cs := by
  unfold scan at h
  split at h
  · next hc =>
    obtain rfl := Option.some.inj h
    exact .inl (.inl ⟨hc, by rw [hc]⟩)
  split at h
  · next hr =>
    obtain rfl := Option.some.inj h
    exact .inl (.inr ⟨hr.1, hr.2, by rw [hr.1]⟩)
  split at h
  · cases h
  split at h
  · next hslash =>
    obtain rfl := Option.some.inj h
    exact .inr (.inl ⟨hslash.1, hslash.2, by rw [hslash.1]⟩)
  split at h
  · exact .inr (.inr (.inl (Option.some.inj h).symm))
  split at h
  · exact .inr (.inr (.inr (.inl (Option.some.inj h).symm)))
  · exact .inr (.inr (.inr (.inr (Option.some.inj h).symm)))

/-- A line break is scanned from a line feed, or a carriage return with a line feed. -/
theorem newline_of_scan (h : scan c cs = some s) (lexeme : s.lexeme = .token .newline) :
    c = '\n' ∧ s = .token .newline ['\n'] ∨
      c = '\r' ∧ cs.head? = some '\n' ∧ s = .token .newline ['\r', '\n'] := by
  rcases scan_cases h with newline | ⟨-, -, rfl⟩ | rfl | rfl | rfl
  · exact newline
  · cases lexeme
  · exact absurd lexeme (toScan_not_trivia _).1
  · exact absurd lexeme (scanGeneric_not_trivia cs).1
  · exact absurd lexeme (scanPlain_not_trivia c cs).1

/-- A comment is scanned from two slashes on, up to the end of the line. -/
theorem comment_of_scan (h : scan c cs = some s) (lexeme : s.lexeme = .token .comment) :
    ∃ ds, c = '/' ∧ cs = '/' :: ds ∧
      s = .token .comment ('/' :: '/' :: ds.takeWhile fun d => d ≠ '\r' ∧ d ≠ '\n') := by
  rcases scan_cases h with (⟨-, rfl⟩ | ⟨-, -, rfl⟩) | ⟨first, next, rfl⟩ | rfl | rfl | rfl
  · cases lexeme
  · cases lexeme
  · obtain ⟨ds, rfl⟩ := List.head?_eq_some_iff.1 next
    exact ⟨ds, first, rfl, rfl⟩
  · exact absurd lexeme (toScan_not_trivia _).2
  · exact absurd lexeme (scanGeneric_not_trivia cs).2
  · exact absurd lexeme (scanPlain_not_trivia c cs).2

/-- A line break is scanned from a line feed only. -/
theorem newline_mem_of_scan (h : scan c cs = some s) (lexeme : s.lexeme = .token .newline) :
    '\n' ∈ c :: cs := by
  rcases newline_of_scan h lexeme with ⟨rfl, -⟩ | ⟨-, next, -⟩
  · exact List.mem_cons_self
  · exact List.mem_cons_of_mem _ (List.mem_of_mem_head? next)

/-- A token begins where its scan does. -/
theorem lead_of_token {t : Token} (h : scan c cs = some s) (lexeme : s.lexeme = .token t) :
    s.lead = [] := by
  rcases scan_cases h with (⟨-, rfl⟩ | ⟨-, -, rfl⟩) | ⟨-, -, rfl⟩ | rfl | rfl | rfl
  · rfl
  · rfl
  · rfl
  · unfold TextScan.toScan at lexeme ⊢
    split at lexeme
    · rfl
    · cases lexeme
    · cases lexeme
  · unfold scanGeneric
    repeat' split
    all_goals rfl
  · unfold scanPlain
    repeat' split
    all_goals rfl

/-- There is no line break on one line. -/
theorem not_isNewline_of_line (line : '\n' ∉ xs) :
    ∀ item ∈ itemsFrom p xs, item.isNewline = false := by
  induction xs using scan_induction generalizing p with
  | nil => simp
  | blank c cs hs ih =>
    rw [itemsFrom_of_blank hs]
    exact ih (List.not_mem_of_not_mem_cons line)
  | item c cs s after hs split ih =>
    rw [itemsFrom_of_scan hs split.symm, List.forall_mem_cons]
    refine ⟨?_, ih fun hm => line (split ▸ List.mem_append_right _ hm)⟩
    rw [Item.isNewline, beq_eq_false_iff_ne]
    exact fun newline => line (newline_mem_of_scan hs newline)

/-- Along a line the columns do not go back. -/
theorem isChain_column (line : '\n' ∉ xs) :
    (p.column :: (itemsFrom p xs).map Item.column).IsChain (· ≤ ·) := by
  induction xs using scan_induction generalizing p with
  | nil => simp
  | blank c cs hs ih =>
    obtain ⟨first, others⟩ := List.ne_and_not_mem_of_not_mem_cons line
    obtain ⟨right, chain⟩ := List.isChain_cons.1 (ih (p := p.advance c) others)
    rw [Position.advance_of_ne_newline p first.symm] at right chain
    rw [itemsFrom_of_blank hs, Position.advance_of_ne_newline p first.symm]
    exact List.isChain_cons.2 ⟨fun column hc => Nat.le_of_succ_le (right column hc), chain⟩
  | item c cs s after hs split ih =>
    rw [← split, List.mem_append, not_or, Scan.consumed, List.mem_append, not_or] at line
    obtain ⟨⟨lead, body⟩, others⟩ := line
    have start : (Rest.itemOf p s).column = p.column + s.lead.length :=
      Position.column_advanceAll p lead
    have stop : (p.advanceAll s.consumed).column = p.column + s.lead.length + s.body.length := by
      rw [Scan.consumed, Position.advanceAll_append, Position.column_advanceAll _ body,
        Position.column_advanceAll _ lead]
    obtain ⟨right, chain⟩ := List.isChain_cons.1 (ih (p := p.advanceAll s.consumed) others)
    rw [itemsFrom_of_scan hs split.symm, List.map_cons]
    refine List.isChain_cons_cons.2 ⟨by omega, List.isChain_cons.2 ⟨fun column hc => ?_, chain⟩⟩
    have := right column hc
    omega

end Offside
