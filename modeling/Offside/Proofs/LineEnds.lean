import Offside.Proofs.Concatenation
import Offside.Proofs.Items

/-!
# What a scan sees of its line

A scan that makes no line break does not look past the end of its line, be it a line feed, a
carriage return with a line feed, or the end of the source: it yields the same lexeme at the same
place whichever of them stands there (`scan_congr`).  A token is the same scan altogether, but the
characters that an error covers may differ, for an escape that is none takes the first character of
the line break with it.

So the items of a text that ends a line are those of the text alone, if all of these are tokens
(`itemsFrom_lineEnd`, `clean_of_append`).
-/

namespace Offside

variable {p q : Position} {c d : Char} {cs xs ys r r' : List Char} {s : Scan}

/-- That a text begins with a line break or there is none. -/
inductive LineEnd : List Char → Prop
  /-- The source ends. -/
  | nil : LineEnd []
  /-- A line feed. -/
  | newline (ys : List Char) : LineEnd ('\n' :: ys)
  /-- A carriage return and a line feed. -/
  | crlf (ys : List Char) : LineEnd ('\r' :: '\n' :: ys)

/-- That two scans yield the same lexeme in the same place. -/
structure Scan.Alike (s s' : Scan) : Prop where
  /-- They yield the same lexeme. -/
  lexeme : s.lexeme = s'.lexeme
  /-- It begins at the same place. -/
  lead : s.lead = s'.lead
  /-- If it is a token, they are the same. -/
  eq_of_token : ∀ t, s.lexeme = .token t → s = s'

namespace Scan.Alike

theorem refl (s : Scan) : Alike s s := ⟨rfl, rfl, fun _ _ => rfl⟩

theorem symm {s s' : Scan} (h : Alike s s') : Alike s' s :=
  ⟨h.lexeme.symm, h.lead.symm, fun t ht => (h.eq_of_token t (h.lexeme.trans ht)).symm⟩

theorem trans {s s' s'' : Scan} (h : Alike s s') (h' : Alike s' s'') : Alike s s'' :=
  ⟨h.lexeme.trans h'.lexeme, h.lead.trans h'.lead, fun t ht =>
    (h.eq_of_token t ht).trans (h'.eq_of_token t (h.lexeme ▸ ht))⟩

/-- Errors are alike that begin at the same place. -/
theorem of_error {s s' : Scan} {e : LexError} (h : s.lexeme = .error e)
    (h' : s'.lexeme = .error e) (lead : s.lead = s'.lead) : Alike s s' :=
  ⟨h.trans h'.symm, lead, fun t ht => by rw [h] at ht; cases ht⟩

end Scan.Alike

/-! ### Errors at the end of a line -/

theorem unescape_return : unescape '\r' = none := by decide

/-- A backslash before a character that it escapes nothing with. -/
theorem scanText_badEscape (h : unescape c = none) (cs : List Char) :
    scanText ('\\' :: c :: cs) = ⟨[], [], .badEscape ['\\', c]⟩ := by
  rw [scanText, h]

/-- A text that is not closed on its line fails alike whatever ends the line. -/
theorem scanText_append_lineEnd (h : (scanText cs).ending ≠ .closed) (hr : LineEnd r) :
    ((scanText cs).ending = .unclosed ∧ (scanText (cs ++ r)).ending = .unclosed) ∨
      ∃ e e', (scanText cs).ending = .badEscape e ∧ (scanText (cs ++ r)).ending = .badEscape e' ∧
        (scanText cs).read = (scanText (cs ++ r)).read := by
  fun_induction scanText cs with
  | case1 =>
    left
    cases hr with
    | nil => exact ⟨rfl, rfl⟩
    | newline => exact ⟨rfl, rfl⟩
    | crlf =>
      rw [List.nil_append, scanText_cons (by decide) (by decide) (by decide)]
      exact ⟨rfl, rfl⟩
  | case2 => exact .inl ⟨rfl, rfl⟩
  | case3 => exact absurd rfl h
  | case4 =>
    right
    cases hr with
    | nil => exact ⟨_, _, rfl, rfl, rfl⟩
    | newline ys =>
      rw [List.singleton_append, scanText_badEscape unescape_newline]
      exact ⟨_, _, rfl, rfl, rfl⟩
    | crlf ys =>
      rw [List.singleton_append, scanText_badEscape unescape_return]
      exact ⟨_, _, rfl, rfl, rfl⟩
  | case5 c cs d hd ih =>
    have same : scanText ('\\' :: c :: cs ++ r) = (scanText (cs ++ r)).cons d ['\\', c] := by
      simp only [List.cons_append, scanText, hd]
    rw [same]
    rcases ih h with ⟨left, right⟩ | ⟨e, e', left, right, read⟩
    · exact .inl ⟨left, right⟩
    · exact .inr ⟨e, e', left, right, congrArg (['\\', c] ++ ·) read⟩
  | case6 c cs hd =>
    right
    rw [List.cons_append, List.cons_append, scanText_badEscape hd]
    exact ⟨_, _, rfl, rfl, rfl⟩
  | case7 c cs newline quote alone escape ih =>
    have backslash : c ≠ '\\' := by
      rintro rfl
      cases cs with
      | nil => exact alone rfl rfl
      | cons d ds => exact escape d ds rfl rfl
    rw [List.cons_append, scanText_cons newline quote backslash]
    rcases ih h with ⟨left, right⟩ | ⟨e, e', left, right, read⟩
    · exact .inl ⟨left, right⟩
    · exact .inr ⟨e, e', left, right, congrArg ([c] ++ ·) read⟩

theorem alike_toScan_append (h : (scanText cs).ending ≠ .closed) (hr : LineEnd r) :
    (scanText cs).toScan.Alike (scanText (cs ++ r)).toScan := by
  rcases scanText_append_lineEnd h hr with ⟨left, right⟩ | ⟨e, e', left, right, read⟩
  · refine .of_error (e := .missingQuote) ?_ ?_ ?_
    all_goals simp only [TextScan.toScan, left, right, Scan.error]
  · refine .of_error (e := .badEscape) ?_ ?_ ?_
    all_goals simp only [TextScan.toScan, left, right, read]

theorem alike_scanGeneric_append {e : LexError} (h : (scanGeneric cs).lexeme = .error e)
    (hr : LineEnd r) : (scanGeneric cs).Alike (scanGeneric (cs ++ r)) := by
  cases cs with
  | nil =>
    have starts : ∀ d ∈ r.head?, Unicode.isNameStart d = false := by
      cases hr with
      | nil => simp
      | newline => simp [isNameStart_newline]
      | crlf => simp [show Unicode.isNameStart '\r' = false by decide +kernel]
    cases r with
    | nil => exact .refl _
    | cons d ys =>
      have here : Unicode.isNameStart d = false := starts d rfl
      rw [List.nil_append, scanGeneric, scanGeneric, if_neg (by simp [here])]
      exact .refl _
  | cons c cs =>
    have here : ¬ Unicode.isNameStart c = true := by
      intro here
      rw [scanGeneric, if_pos here] at h
      cases h
    rw [List.cons_append, scanGeneric, scanGeneric, if_neg here, if_neg here]
    exact .refl _

theorem isSeparator_return : isSeparator '\r' = true := by decide +kernel

/-- What ends a line begins with a separator, if there is anything. -/
theorem LineEnd.cases (hr : LineEnd r) :
    r = [] ∨ ∃ d ys, r = d :: ys ∧ isSeparator d = true ∧ (d = '\n' ∨ d = '\r') := by
  cases hr with
  | nil => exact .inl rfl
  | newline ys => exact .inr ⟨_, ys, rfl, isSeparator_newline, .inl rfl⟩
  | crlf ys => exact .inr ⟨_, _, rfl, isSeparator_return, .inr rfl⟩

/-- **An error is scanned alike whatever ends the line.** -/
theorem scan_append_of_error {e : LexError} (hs : scan c cs = some s) (lexeme : s.lexeme = .error e)
    (hr : LineEnd r) : ∃ s', scan c (cs ++ r) = some s' ∧ s.Alike s' := by
  rcases hr.cases with rfl | ⟨d, ys, rfl, separator, -⟩
  · rw [List.append_nil]
    exact ⟨s, hs, .refl s⟩
  have slash : (cs ++ d :: ys).head? = some '/' ↔ cs.head? = some '/' :=
    head?_append_cons (ne_of_isSeparator separator (by decide)) cs ys
  unfold scan at hs ⊢
  split at hs
  · obtain rfl := Option.some.inj hs
    cases lexeme
  next hc =>
  rw [if_neg hc]
  split at hs
  · obtain rfl := Option.some.inj hs
    cases lexeme
  next hr' =>
  split at hs
  · cases hs
  next hb =>
  have blank : ¬(c = '\r' ∧ (cs ++ d :: ys).head? = some '\n') := by
    rintro ⟨rfl, -⟩
    exact hb (by decide)
  rw [if_neg blank, if_neg hb]
  split at hs
  · obtain rfl := Option.some.inj hs
    cases lexeme
  next hslash =>
  rw [if_neg (fun hc => hslash ⟨hc.1, slash.1 hc.2⟩)]
  split at hs
  · next hq =>
    obtain rfl := Option.some.inj hs
    have fails : (scanText cs).ending ≠ .closed := fun closed => by
      simp [TextScan.toScan, closed, Scan.token] at lexeme
    rw [if_pos hq]
    exact ⟨_, rfl, alike_toScan_append fails hr⟩
  next hq =>
  rw [if_neg hq]
  split at hs
  · next hg =>
    obtain rfl := Option.some.inj hs
    rw [if_pos hg]
    exact ⟨_, rfl, alike_scanGeneric_append lexeme hr⟩
  · next hg =>
    rw [if_neg hg, scanPlain_append separator]
    exact ⟨s, hs, .refl s⟩

/-! ### Whatever ends the line -/

/-- A scan of what is on the line is a scan with what ends it. -/
theorem scan_append_lineEnd (hs : scan c cs = some s) (hr : LineEnd r) :
    ∃ s', scan c (cs ++ r) = some s' ∧ s.Alike s' := by
  cases lexeme : s.lexeme with
  | error e => exact scan_append_of_error hs lexeme hr
  | token t =>
    rcases hr.cases with rfl | ⟨d, ys, rfl, separator, ends⟩
    · exact ⟨s, by rwa [List.append_nil], .refl s⟩
    · exact ⟨s, scan_append separator hs lexeme (fun _ => ends) ys, .refl s⟩

/-- A scan with what ends the line is one of what is on the line, unless it is the line break. -/
theorem scan_of_append (hs : scan c (cs ++ r) = some s) (hr : LineEnd r)
    (solid : s.lexeme ≠ .token .newline) : ∃ s', scan c cs = some s' ∧ s.Alike s' := by
  cases before : scan c cs with
  | some s' =>
    obtain ⟨s'', after, alike⟩ := scan_append_lineEnd before hr
    obtain rfl := Option.some.inj (hs.symm.trans after)
    exact ⟨s', rfl, alike.symm⟩
  | none =>
    rcases hr.cases with rfl | ⟨d, ys, rfl, -⟩
    · rw [List.append_nil, before] at hs
      cases hs
    by_cases line : c = '\r' ∧ cs = [] ∧ d = '\n'
    · obtain ⟨rfl, rfl, rfl⟩ := line
      obtain rfl : s = .token .newline ['\r', '\n'] := by simpa [scan, eq_comm] using hs
      exact absurd rfl solid
    · rw [scan_append_of_blank before line] at hs
      cases hs

/-- **A scan that makes no line break is alike whatever ends its line.** -/
theorem scan_congr (hs : scan c (cs ++ r) = some s) (hr : LineEnd r) (hr' : LineEnd r')
    (solid : s.lexeme ≠ .token .newline) : ∃ s', scan c (cs ++ r') = some s' ∧ s.Alike s' := by
  obtain ⟨s', alone, alike⟩ := scan_of_append hs hr solid
  obtain ⟨s'', scanned, alike'⟩ := scan_append_lineEnd alone hr'
  exact ⟨s'', scanned, alike.trans alike'⟩

/-! ### Items of a line -/

/-- A text is all tokens if it is so with what ends its last line. -/
theorem clean_of_append (hr : LineEnd r) (h : Clean (itemsFrom p (xs ++ r))) :
    Clean (itemsFrom p xs) := by
  rcases hr.cases with rfl | ⟨d, ys, rfl, -⟩
  · rwa [List.append_nil] at h
  induction xs using scan_induction generalizing p with
  | nil => rw [itemsFrom_nil]; exact clean_nil
  | blank c cs hs ih =>
    rw [itemsFrom_of_blank hs]
    by_cases line : c = '\r' ∧ cs = [] ∧ d = '\n'
    · rw [line.2.1, itemsFrom_nil]
      exact clean_nil
    · rw [List.cons_append, itemsFrom_of_blank (scan_append_of_blank hs line ys)] at h
      exact ih h
  | item c cs s after hs split ih =>
    obtain ⟨s', scanned, alike⟩ := scan_append_lineEnd hs hr
    rw [itemsFrom_of_scan hs split.symm]
    rw [List.cons_append] at h
    cases lexeme : s.lexeme with
    | error e =>
      obtain ⟨after', split'⟩ := scan_isPrefix scanned
      rw [itemsFrom_of_scan scanned split'.symm] at h
      exact absurd (alike.lexeme.symm.trans lexeme) (h.not_error List.mem_cons_self)
    | token t =>
      obtain rfl := alike.eq_of_token t lexeme
      have joined : c :: (cs ++ d :: ys) = s.consumed ++ (after ++ d :: ys) := by
        rw [← List.append_assoc, split, List.cons_append]
      rw [itemsFrom_of_scan scanned joined] at h
      exact (ih (clean_cons.1 h).2).cons lexeme

/-- **The items of a text and of what ends its line** are those of the one, and then a line break
and those of the next lines, if there are any. -/
theorem itemsFrom_lineEnd (hr : LineEnd r) :
    r = [] ∨ ∃ ys, ∀ p xs, Clean (itemsFrom p xs) → ∃ nl q, nl.lexeme = .token .newline ∧
      q.column = 0 ∧ itemsFrom p (xs ++ r) = itemsFrom p xs ++ nl :: itemsFrom q ys := by
  cases hr with
  | nil => exact .inl rfl
  | newline ys =>
    refine .inr ⟨ys, fun p xs tokens => ?_⟩
    obtain ⟨nl, newline, joined⟩ := itemsFrom_append_newline tokens ys
    refine ⟨nl, _, newline, ?_, joined⟩
    rw [Position.advanceAll_append]
    rfl
  | crlf ys =>
    refine .inr ⟨ys, fun p xs tokens => ?_⟩
    have ends : EndsAt '\r' (itemsFrom p xs) := fun item hi =>
      (tokens item hi).imp fun t ht => ⟨ht, fun _ => .inr rfl⟩
    have joined := (itemsFrom_append isSeparator_return p xs ('\n' :: ys) ends).resolve_right
      fun h => absurd h.1 (by decide)
    have scanned : scan '\r' ('\n' :: ys) = some (.token .newline ['\r', '\n']) := by
      simp [scan]
    rw [itemsFrom_of_scan scanned rfl] at joined
    exact ⟨_, _, rfl, rfl, joined⟩

end Offside
