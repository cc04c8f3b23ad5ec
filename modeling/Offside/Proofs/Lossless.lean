import Offside.Proofs.Concatenation

/-!
# What the items of a source cover

Nothing of a source is lost on the way to its items (`lossless_items`).  They cover it in order,
from character to character, and what they leave out between them is blank: blanks other than line
feeds, and in front of a bad escape the text that it breaks off.  What an item says is what is
written where it stands.

* `Token.Written`, `Lexeme.Written` say how each lexeme is written, and `Lexeme.Led` what may be
  passed over in front of it; a scan yields nothing else (`faithful_of_scan`).
* `Lexes.of_append` divides a text between two of its items, and `Lexes.scanned_mem` finds the scan
  that made an item.
-/

namespace Offside

/-! ### How lexemes are written -/

/-- `StandsFor written value`: between quotes, `written` stands for the characters `value`. -/
inductive StandsFor : List Char → List Char → Prop
  /-- Nothing stands for no character. -/
  | nil : StandsFor [] []
  /-- A character that neither ends a text nor begins an escape stands for itself. -/
  | plain {c : Char} {written value : List Char} (newline : c ≠ '\n') (quote : c ≠ '"')
      (backslash : c ≠ '\\') (others : StandsFor written value) :
      StandsFor (c :: written) (c :: value)
  /-- A backslash and a character stand for what they escape. -/
  | escape {c d : Char} {written value : List Char} (escapes : unescape c = some d)
      (others : StandsFor written value) : StandsFor ('\\' :: c :: written) (d :: value)

theorem StandsFor.newline_not_mem {written value : List Char} (h : StandsFor written value) :
    '\n' ∉ written := by
  induction h with
  | nil => simp
  | plain newline _ _ _ ih => simp [ih, newline.symm]
  | @escape c _ _ _ escapes _ ih =>
    have newline : c ≠ '\n' := by
      rintro rfl
      rw [unescape_newline] at escapes
      cases escapes
    simp [ih, newline.symm]

/-- Whether a token is written as `body`. -/
def Token.Written (body : List Char) : Token → Prop
  | .comment => ∃ line, body = '/' :: '/' :: line ∧ ∀ c ∈ line, c ≠ '\r' ∧ c ≠ '\n'
  | .newline => body = ['\n'] ∨ body = ['\r', '\n']
  | .name spelling | .number spelling => body = spelling.toList
  | .text value => ∃ written, body = '"' :: (written ++ ['"']) ∧ StandsFor written value.toList
  | .bool value => body = if value then "true".toList else "false".toList
  | .operator symbol => body = symbol.toList
  | .generic marker => body = '\x27' :: marker.toList
  | .keyword word => body = word.spelling.toList
  | .opening bracket => body = [bracket.openSign]
  | .closing bracket => body = [bracket.closeSign]

/-- Whether a lexeme is written as `body`: a token in its own way, a character that begins no token
as it is, a text without a closing quote up to where it breaks off, and an escape that is none with
the character after the backslash, if there is one. -/
def Lexeme.Written (body : List Char) : Lexeme → Prop
  | .token t => t.Written body
  | .error (.unexpected c) => body = [c]
  | .error .missingQuote => ∃ written value, body = '"' :: written ∧ StandsFor written value
  | .error .badEscape => body = ['\\'] ∨ ∃ c, body = ['\\', c] ∧ unescape c = none

/-- Whether `lead` may be passed over in front of a lexeme: an opening quote and the text up to a
bad escape, and nothing in front of any other. -/
def Lexeme.Led (lead : List Char) : Lexeme → Prop
  | .error .badEscape => ∃ written value, lead = '"' :: written ∧ StandsFor written value
  | _ => lead = []

/-- That a scan covers what its lexeme is written as, and passes over what may lead to it. -/
structure Scan.Faithful (s : Scan) : Prop where
  /-- What it covers. -/
  body : s.lexeme.Written s.body
  /-- What it passes over. -/
  lead : s.lexeme.Led s.lead

theorem Scan.Faithful.token {t : Token} {body : List Char} (h : t.Written body) :
    (Scan.token t body).Faithful := ⟨h, rfl⟩

theorem Scan.Faithful.unexpected (c : Char) : (Scan.error (.unexpected c) [c]).Faithful :=
  ⟨rfl, rfl⟩

/-- What is read of a text stands for its value, up to the closing quote if it ends there. -/
theorem exists_written_scanText (cs : List Char) :
    ∃ written, StandsFor written (scanText cs).value ∧
      ((scanText cs).ending = .closed → (scanText cs).read = written ++ ['"']) ∧
      ((scanText cs).ending ≠ .closed → (scanText cs).read = written) := by
  fun_induction scanText cs with
  | case1 => exact ⟨[], .nil, by simp, by simp⟩
  | case2 => exact ⟨[], .nil, by simp, by simp⟩
  | case3 => exact ⟨[], .nil, by simp, by simp⟩
  | case4 => exact ⟨[], .nil, by simp, by simp⟩
  | case5 c cs d escapes ih =>
    obtain ⟨written, stands, closed, broken⟩ := ih
    exact ⟨'\\' :: c :: written, .escape escapes stands,
      fun h => congrArg (['\\', c] ++ ·) (closed h), fun h => congrArg (['\\', c] ++ ·) (broken h)⟩
  | case6 => exact ⟨[], .nil, by simp, by simp⟩
  | case7 c cs newline quote alone escape ih =>
    obtain ⟨written, stands, closed, broken⟩ := ih
    have backslash : c ≠ '\\' := by
      rintro rfl
      cases cs with
      | nil => exact alone rfl rfl
      | cons d ds => exact escape d ds rfl rfl
    exact ⟨c :: written, .plain newline quote backslash stands,
      fun h => congrArg ([c] ++ ·) (closed h), fun h => congrArg ([c] ++ ·) (broken h)⟩

/-- A bad escape is a backslash and what it escapes nothing with. -/
theorem badEscape_of_scanText {cs sequence : List Char}
    (h : (scanText cs).ending = .badEscape sequence) :
    sequence = ['\\'] ∨ ∃ c, sequence = ['\\', c] ∧ unescape c = none := by
  fun_induction scanText cs with
  | case1 => cases h
  | case2 => cases h
  | case3 => cases h
  | case4 => cases h; exact .inl rfl
  | case5 c cs d escapes ih => exact ih h
  | case6 c cs none => cases h; exact .inr ⟨c, rfl, none⟩
  | case7 c cs newline quote alone escape ih => exact ih h

theorem faithful_toScan (cs : List Char) : (scanText cs).toScan.Faithful := by
  obtain ⟨written, stands, closed, broken⟩ := exists_written_scanText cs
  unfold TextScan.toScan
  split
  · next ending => exact .token ⟨written, by rw [closed ending], by simpa using stands⟩
  · next ending =>
    exact ⟨⟨written, _, by rw [Scan.error, broken (by simp [ending])], stands⟩, rfl⟩
  · next sequence ending =>
    exact ⟨badEscape_of_scanText ending,
      ⟨written, _, by rw [broken (by simp [ending])], stands⟩⟩

theorem faithful_scanGeneric (cs : List Char) : (scanGeneric cs).Faithful := by
  unfold scanGeneric
  split
  · split
    · exact .token (by simp [Token.Written])
    · exact .unexpected _
  · exact .unexpected _

theorem written_wordToken (word : String) : (wordToken word).Written word.toList := by
  unfold wordToken
  split
  · next h => rw [h]; rfl
  split
  · next h => rw [h]; rfl
  split
  · next h => rw [h]; rfl
  split
  · next h => rw [h]; rfl
  · rfl

theorem written_bracketToken {c : Char} {t : Token} (h : bracketToken c = some t) :
    t.Written [c] := by
  unfold bracketToken at h
  repeat' split at h
  all_goals cases h
  all_goals
    subst c
    rfl

theorem faithful_scanPlain (c : Char) (cs : List Char) : (scanPlain c cs).Faithful := by
  unfold scanPlain
  split
  · next h => exact .token (written_bracketToken h)
  split
  · next h => exact .token (by rw [h]; rfl)
  split
  · exact .token (by simp [Token.Written])
  split
  · exact .token (by simp [Token.Written])
  split
  · refine .token ?_
    simpa using written_wordToken (String.ofList (c :: cs.takeWhile Unicode.isNameContinue))
  · exact .unexpected c

/-- **A scan yields a lexeme as it is written.** -/
theorem faithful_of_scan {c : Char} {cs : List Char} {s : Scan} (h : scan c cs = some s) :
    s.Faithful := by
  rcases scan_cases h with (⟨-, rfl⟩ | ⟨-, -, rfl⟩) | ⟨-, next, rfl⟩ | rfl | rfl | rfl
  · exact .token (.inl rfl)
  · exact .token (.inr rfl)
  · obtain ⟨ds, rfl⟩ := List.head?_eq_some_iff.1 next
    refine .token ⟨ds.takeWhile fun d => d ≠ '\r' ∧ d ≠ '\n', by simp, fun d hd => ?_⟩
    simpa using List.mem_takeWhile_imp hd
  · exact faithful_toScan cs
  · exact faithful_scanGeneric cs
  · exact faithful_scanPlain c cs

/-! ### Where the items of a text are -/

/-- Where the last of some items stops, or `offset` if there are none. -/
def stopOf (offset : Nat) (its : List Item) : Nat := its.foldl (fun _ item => item.span.stop) offset

/-- Between two of its items a text falls into two, and the second part begins where the last item
of the first one stops. -/
theorem Lexes.of_append {p : Position} {text : List Char} {front back : List Item}
    (h : Lexes p text (front ++ back)) : ∃ before after, text = before ++ after ∧
      stopOf p.offset front = p.offset + byteLength before ∧
      Lexes (p.advanceAll before) after back := by
  induction front generalizing p text with
  | nil => exact ⟨[], text, rfl, rfl, h⟩
  | cons item front ih =>
    cases h with
    | @item _ gap cs after c s _ blank scanned split others =>
      obtain ⟨before, after, rfl, stop, rest⟩ := ih others
      refine ⟨gap ++ s.consumed ++ before, after, by simp [split], ?_, ?_⟩
      · have here : (Rest.itemOf (p.advanceAll gap) s).span.stop =
            (p.advanceAll (gap ++ s.consumed)).offset := by
          simp only [Item.span, Rest.itemOf, Span.stop, Scan.consumed, Position.offset_advanceAll,
            byteLength_append, Nat.add_assoc]
        rw [stopOf, List.foldl_cons, here, ← stopOf, stop, Position.offset_advanceAll,
          byteLength_append _ before, Nat.add_assoc]
      · rw [Position.advanceAll_append _ _ before]
        exact rest

/-- An item is made by a scan of the text at its place. -/
theorem Lexes.scanned_mem {p : Position} {text : List Char} {its : List Item}
    (h : Lexes p text its) {item : Item} (hi : item ∈ its) :
    ∃ before c cs s after, text = before ++ (s.consumed ++ after) ∧ c :: cs = s.consumed ++ after ∧
      scan c cs = some s ∧ item = Rest.itemOf (p.advanceAll before) s := by
  obtain ⟨front, back, rfl⟩ := List.append_of_mem hi
  obtain ⟨before, after, rfl, -, rest⟩ := h.of_append
  cases rest with
  | @item _ gap cs after c s _ blank scanned split others =>
    refine ⟨before ++ gap, c, cs, s, after, by simp [split], split, scanned, ?_⟩
    rw [Position.advanceAll_append]

/-- The text that an item covers. -/
def Item.textIn (source : List Char) (item : Item) : Option (List Char) :=
  slice? source item.span.start item.span.stop

theorem textIn_itemOf (before after : List Char) (s : Scan) :
    (Rest.itemOf (Position.origin.advanceAll before) s).textIn (before ++ (s.consumed ++ after)) =
      some s.body := by
  have start : ((Position.origin.advanceAll before).advanceAll s.lead).offset =
      byteLength (before ++ s.lead) := by
    rw [← Position.advanceAll_append, Position.offset_advanceAll]
    exact Nat.zero_add _
  rw [Item.textIn, Item.span, Rest.itemOf, Span.stop_mk, start, Scan.consumed]
  simpa only [List.append_assoc] using slice?_append (before ++ s.lead) s.body after

/-- **An item covers what a scan reads for it.** -/
theorem textIn_of_mem_items {source : List Char} {item : Item} (h : item ∈ items source) :
    ∃ c cs s, scan c cs = some s ∧ item.lexeme = s.lexeme ∧ item.textIn source = some s.body := by
  obtain ⟨before, c, cs, s, after, rfl, -, scanned, rfl⟩ := (lexes_items source).scanned_mem h
  exact ⟨c, cs, s, scanned, rfl, textIn_itemOf before after s⟩

/-! ### Sources -/

/-- Before an item are only blanks, and what may lead to it. -/
theorem exists_gap_before {source : List Char} {front back : List Item} {item : Item}
    (split : items source = front ++ item :: back) : ∃ gap lead,
      slice? source (stopOf 0 front) item.span.start = some (gap ++ lead) ∧ Gap gap ∧
        item.lexeme.Led lead ∧ '\n' ∉ lead := by
  have lexes := lexes_items source
  rw [split] at lexes
  obtain ⟨before, after, rfl, stop, rest⟩ := lexes.of_append
  cases rest with
  | @item _ gap cs after c s _ blank scanned joined others =>
    refine ⟨gap, s.lead, ?_, blank, (faithful_of_scan scanned).lead, newline_not_mem_lead scanned⟩
    have start : (Rest.itemOf ((Position.origin.advanceAll before).advanceAll gap) s).span.start =
        byteLength before + byteLength (gap ++ s.lead) := by
      simp only [Item.span, Rest.itemOf, Position.offset_advanceAll, byteLength_append,
        Position.origin, Nat.zero_add, Nat.add_assoc]
    have stop : stopOf 0 front = byteLength before := stop.trans (Nat.zero_add _)
    rw [start, stop, joined, Scan.consumed]
    simpa only [List.append_assoc] using slice?_append before (gap ++ s.lead) (s.body ++ after)

/-- After the last item are only blanks. -/
theorem exists_gap_after (source : List Char) : ∃ gap,
    slice? source (stopOf 0 (items source)) (byteLength source) = some gap ∧ Gap gap := by
  have lexes := lexes_items source
  rw [← List.append_nil (items source)] at lexes
  obtain ⟨before, gap, split, stop, rest⟩ := lexes.of_append
  cases rest with
  | done blank =>
    refine ⟨gap, ?_, blank⟩
    have stop : stopOf 0 (items source) = byteLength before := stop.trans (Nat.zero_add _)
    rw [stop, split, byteLength_append]
    simpa only [List.append_nil] using slice?_append before gap []

/-- That items cover a source without a loss. -/
structure Lossless (source : List Char) (its : List Item) : Prop where
  /-- They are not empty, lie in the source and cut no character. -/
  lies : ∀ item ∈ its, 0 < item.span.length ∧ item.span.LiesIn source
  /-- They stand in order and apart. -/
  ordered : its.Pairwise fun a b => a.span.start < b.span.start ∧ a.span.stop ≤ b.span.start
  /-- In front of each are only blanks other than line feeds, and what may lead to it, which has no
  line feed either. -/
  between : ∀ front item back, its = front ++ item :: back → ∃ gap lead,
    slice? source (stopOf 0 front) item.span.start = some (gap ++ lead) ∧ Gap gap ∧
      item.lexeme.Led lead ∧ '\n' ∉ lead
  /-- After the last one are only blanks other than line feeds. -/
  past : ∃ gap, slice? source (stopOf 0 its) (byteLength source) = some gap ∧ Gap gap
  /-- Each says what is written where it stands. -/
  written : ∀ item ∈ its, ∃ body, item.textIn source = some body ∧ item.lexeme.Written body

/-- **A source falls into its items without a loss.** -/
theorem lossless_items (source : List Char) : Lossless source (items source) where
  lies item h := ⟨length_pos_of_mem_items h, liesIn_of_mem_items h⟩
  ordered := pairwise_of_isChain (lexes_items source).isChain
  between _ _ _ split := exists_gap_before split
  past := exists_gap_after source
  written item h := by
    obtain ⟨c, cs, s, scanned, lexeme, text⟩ := textIn_of_mem_items h
    exact ⟨s.body, text, lexeme ▸ (faithful_of_scan scanned).body⟩

end Offside
